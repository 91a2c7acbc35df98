import EdgeApi.Client.Call

/-!
# Intelligence

What is known about domains and addresses. Empty subjects of a lookup are left out.
-/

set_option autoImplicit false

namespace EdgeApi.Intelligence

structure Category where
  id : Int64
  superCategoryId : Option Int64
  name : String

namespace Category

def fields := (
  .cons (.required "id" .int64 id) <|
  .cons (.optional "super_category_id" .int64 superCategoryId) <|
  .cons (.required "name" .text name) .nil : Fields Category _ _)

def codec : Codec Category :=
  .record "ContentCategory" fields fun (id, superCategoryId, name, ()) =>
    { id, superCategoryId, name }

end Category

structure DomainDetails where
  domain : String
  resolvesToRefs : List Json
  popularityRank : Option Int64
  application : Option Json
  riskTypes : List Category
  contentCategories : List Category
  additionalInformation : Option Json

namespace DomainDetails

def fields := (
  .cons (.required "domain" .text domain) <|
  .cons (.items "resolves_to_refs" .json resolvesToRefs) <|
  .cons (.optional "popularity_rank" .int64 popularityRank) <|
  .cons (.optional "application" .json application) <|
  .cons (.items "risk_types" Category.codec riskTypes) <|
  .cons (.items "content_categories" Category.codec contentCategories) <|
  .cons (.optional "additional_information" .json additionalInformation) .nil :
    Fields DomainDetails _ _)

def codec : Codec DomainDetails :=
  .record "DomainDetails" fields
    fun (domain, resolvesToRefs, popularityRank, application, riskTypes, contentCategories,
        additionalInformation, ()) =>
      { domain, resolvesToRefs, popularityRank, application, riskTypes, contentCategories,
        additionalInformation }

end DomainDetails

structure Categorization where
  categories : List Category
  start : String
  stop : String

namespace Categorization

def fields := (
  .cons (.items "categories" Category.codec categories) <|
  .cons (.words "start" start) <|
  .cons (.words "end" stop) .nil : Fields Categorization _ _)

def codec : Codec Categorization :=
  .record "CategorizationHistory" fields fun (categories, start, stop, ()) =>
    { categories, start, stop }

end Categorization

structure DomainHistory where
  domain : String
  categorizations : List Categorization

namespace DomainHistory

def fields := (
  .cons (.required "domain" .text domain) <|
  .cons (.items "categorizations" Categorization.codec categorizations) .nil :
    Fields DomainHistory _ _)

def codec : Codec DomainHistory :=
  .record "DomainHistory" fields fun (domain, categorizations, ()) => { domain, categorizations }

end DomainHistory

structure WhoisRecord where
  domain : String
  createdDate : String
  updatedDate : String
  registrant : String
  registrantOrg : String
  registrantCountry : String
  registrantEmail : String
  registrar : String
  nameservers : List String

namespace WhoisRecord

def fields := (
  .cons (.required "domain" .text domain) <|
  .cons (.words "created_date" createdDate) <|
  .cons (.words "updated_date" updatedDate) <|
  .cons (.words "registrant" registrant) <|
  .cons (.words "registrant_org" registrantOrg) <|
  .cons (.words "registrant_country" registrantCountry) <|
  .cons (.words "registrant_email" registrantEmail) <|
  .cons (.words "registrar" registrar) <|
  .cons (.items "nameservers" .text nameservers) .nil : Fields WhoisRecord _ _)

def codec : Codec WhoisRecord :=
  .record "WhoisRecord" fields
    fun (domain, createdDate, updatedDate, registrant, registrantOrg, registrantCountry,
        registrantEmail, registrar, nameservers, ()) =>
      { domain, createdDate, updatedDate, registrant, registrantOrg, registrantCountry,
        registrantEmail, registrar, nameservers }

end WhoisRecord

structure AutonomousSystem where
  asn : Int64
  description : String
  country : String
  kind : String
  domainCount : Int64

namespace AutonomousSystem

def fields := (
  .cons (.lenient "asn" .int64 0 asn) <|
  .cons (.words "description" description) <|
  .cons (.words "country" country) <|
  .cons (.words "type" kind) <|
  .cons (.lenient "domain_count" .int64 0 domainCount) .nil : Fields AutonomousSystem _ _)

def codec : Codec AutonomousSystem :=
  .record "AutonomousSystem" fields fun (asn, description, country, kind, domainCount, ()) =>
    { asn, description, country, kind, domainCount }

end AutonomousSystem

structure IpOverview where
  ip : String
  belongsToRef : Option AutonomousSystem
  riskTypes : List Category

namespace IpOverview

def fields := (
  .cons (.required "ip" .text ip) <|
  .cons (.optional "belongs_to_ref" AutonomousSystem.codec belongsToRef) <|
  .cons (.items "risk_types" Category.codec riskTypes) .nil : Fields IpOverview _ _)

def codec : Codec IpOverview :=
  .record "IpOverview" fields fun (ip, belongsToRef, riskTypes, ()) =>
    { ip, belongsToRef, riskTypes }

end IpOverview

/-- An address to look up. -/
inductive Address where
  | v4 (text : String)
  | v6 (text : String)
  deriving DecidableEq

namespace Address

def query : Address → Uri.Query
  | .v4 text => .text "ipv4" text
  | .v6 text => .text "ipv6" text

end Address

/-- The subjects of a lookup of domains. -/
def domainQuery (domains : List String) : Uri.Query :=
  .each "domain" (domains.filter fun d => !d.isEmpty)

/-- A lookup at an endpoint. -/
def lookup {α : Type} (codec : Codec α) (endpoint : String) (query : Uri.Query)
    (needs : List Need) : Call α where
  scope := .only .account
  needs := needs
  exchange := fun c => Client.get codec (Uri.build (c.path ++ "/intel/" ++ endpoint) query)

/-- A lookup of a single domain. -/
def lookupDomain {α : Type} (codec : Codec α) (endpoint domain : String) : Call α :=
  lookup codec endpoint (domainQuery [domain]) [.filled domain .missingDomain]

def domainDetails (domain : String) : Call DomainDetails :=
  lookupDomain DomainDetails.codec "domain" domain

def domainDetailsOfAll (domains : List String) : Call (List DomainDetails) :=
  lookup (.list DomainDetails.codec) "domain/bulk" (domainQuery domains)
    [⟨domains.any fun d => !d.isEmpty, .missingDomain⟩]

def domainHistory (domain : String) : Call (List DomainHistory) :=
  lookupDomain (.list DomainHistory.codec) "domain-history" domain

def whois (domain : String) : Call WhoisRecord :=
  lookupDomain WhoisRecord.codec "whois" domain

def ipOverview (address : Address) : Call (List IpOverview) :=
  lookup (.list IpOverview.codec) "ip" address.query []

end EdgeApi.Intelligence
