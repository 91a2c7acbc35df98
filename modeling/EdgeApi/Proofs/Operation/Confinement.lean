import EdgeApi.Proofs.Operation.Validation
import EdgeApi.Proofs.Uri.Segments

/-!
# Confinement of identifiers

The endpoint of a request is laid out in places, one for each segment of its path. An identifier
keeps to its place if it is percent-encoded. One that is written as it is keeps to it only if none
of its characters means something in a path.
-/

set_option autoImplicit false

namespace EdgeApi

open Client EdgeApi.Lists
open Uri.Host (splitAll)

/-! ## Places -/

/-- What stands in a segment of a path. -/
inductive Place where
  | word (text : List Char)
  /-- An identifier that is written as it is. -/
  | named (id : String)
  /-- An identifier that is percent-encoded. -/
  | encoded (key : String)

namespace Place

def text : Place → List Char
  | word text => text
  | named id => id.toList
  | encoded key => (Uri.segment key).toList

/-- A segment that is the word, or is read as the identifier. -/
def Holds : Place → List Char → Prop
  | word text, written => written = text
  | named value, written | encoded value, written =>
    Uri.percentDecode (Text.Utf8.encode (String.ofList written)) = Text.Utf8.encode value

/-- The place has one segment to itself, wherever it stands. -/
structure Kept (place : Place) : Prop where
  slash : '/' ∉ place.text
  holds : place.Holds place.text
  mark : '?' ∉ place.text
  hash : '#' ∉ place.text

theorem kept_encoded (key : String) : (encoded key).Kept where
  slash := Uri.not_mem_segment (by decide) key
  holds := by
    rw [Holds, text, String.ofList_toList]
    exact Uri.percentDecode_segment key
  mark := Uri.not_mem_segment (by decide) key
  hash := Uri.not_mem_segment (by decide) key

end Place

/-- An identifier that can be written as it is: nothing in it means something in a path. -/
structure Uri.Plain (id : String) : Prop where
  slash : '/' ∉ id.toList
  mark : '?' ∉ id.toList
  hash : '#' ∉ id.toList
  decoded : percentDecode (Text.Utf8.encode id) = Text.Utf8.encode id

theorem Place.kept_named_iff {id : String} : (named id).Kept ↔ Uri.Plain id := by
  constructor
  · intro h
    refine ⟨h.slash, h.mark, h.hash, ?_⟩
    have hHolds := h.holds
    rw [Holds, text, String.ofList_toList] at hHolds
    exact hHolds
  · intro h
    refine ⟨h.slash, ?_, h.mark, h.hash⟩
    rw [Holds, text, String.ofList_toList]
    exact h.decoded

def wordsOf (text : String) : List Place :=
  ((splitAll '/' text.toList).drop 1).map .word

namespace Route

def placesAfter (text : String) : Route → List Place
  | [] => wordsOf text
  | .fixed more :: route => placesAfter (text ++ more) route
  | .named id _ :: route => wordsOf text ++ .named id :: placesAfter "" route
  | .encoded key _ :: route => wordsOf text ++ .encoded key :: placesAfter "" route

def places (c : Container) (route : Route) : List Place :=
  .word [] :: .word c.level.segment.toList :: .named c.id :: placesAfter "" route

/-- Every identifier keeps to its place: the path has one segment for each place, which is the word
or is read as the identifier, and the path ends before a query and a fragment. -/
structure Confined (c : Container) (route : Route) : Prop where
  segments : List.Forall₂ Place.Holds (route.places c) (splitAll '/' (route.path c).toList)
  noQuery : '?' ∉ (route.path c).toList
  noFragment : '#' ∉ (route.path c).toList

def raw (route : Route) : List String :=
  route.filterMap fun
    | .named id _ => some id
    | _ => none

/-- A text that stands before an identifier or the end: it starts a segment and ends none. -/
def isTidyText (text : String) : Bool :=
  text.toList.head?.all (· == '/') && text.toList.all fun c => c != '?' && c != '#'

def isTidyAfter (text : String) : Route → Bool
  | [] => isTidyText text
  | .fixed more :: route => isTidyAfter (text ++ more) route
  | .named .. :: route | .encoded .. :: route => isTidyText text && isTidyAfter "" route

variable {c : Container} {text : String} {route : Route}

theorem toList_wordsOf (h : isTidyText text = true) :
    text.toList = (wordsOf text).flatMap fun place => '/' :: place.text := by
  rw [isTidyText, Bool.and_eq_true] at h
  rw [wordsOf]
  rcases hText : text.toList with _ | ⟨first, rest⟩
  · rfl
  · rw [hText] at h
    obtain rfl : first = '/' := by simpa using h.1
    have hSplit : splitAll '/' ('/' :: rest) = [] :: splitAll '/' rest := if_pos rfl
    rw [hSplit, List.drop_succ_cons, List.drop_zero, List.flatMap_map]
    exact (Uri.Host.flatMap_splitAll '/' rest).symm

theorem toList_foldl (path : String) (h : isTidyAfter text route = true) :
    (route.foldl Piece.extend (path ++ text)).toList =
      path.toList ++ (placesAfter text route).flatMap fun place => '/' :: place.text := by
  induction route generalizing path text with
  | nil => rw [List.foldl_nil, String.toList_append, placesAfter, ← toList_wordsOf h]
  | cons piece route ih =>
    cases piece with
    | fixed more =>
      rw [List.foldl_cons, Piece.extend, String.append_assoc]
      exact ih path h
    | named value otherwise | encoded value otherwise =>
      rw [isTidyAfter, Bool.and_eq_true] at h
      have hRest := fun path' : String => ih path' h.2
      simp only [String.append_empty] at hRest
      rw [List.foldl_cons, Piece.extend, hRest, placesAfter, List.flatMap_append, List.flatMap_cons,
        ← toList_wordsOf h.1]
      simp [Place.text]

theorem toList_path (h : isTidyAfter "" route = true) :
    (route.path c).toList = (route.places c).tail.flatMap fun place => '/' :: place.text := by
  have hFold := toList_foldl c.path h
  rw [String.append_empty] at hFold
  rw [path, hFold]
  simp [places, Container.path, Place.text]

theorem splitAll_path (h : isTidyAfter "" route = true) :
    splitAll '/' (route.path c).toList =
      (route.places c).flatMap fun place => splitAll '/' place.text := by
  have hParts := Uri.Host.splitAll_flatMap '/' ((route.places c).tail.map Place.text)
  rw [List.flatMap_map, List.flatMap_map] at hParts
  rw [toList_path h, hParts]
  rfl

theorem not_mem_path_iff {mark : Char} (hMark : mark ≠ '/') (h : isTidyAfter "" route = true) :
    mark ∉ (route.path c).toList ↔ ∀ place ∈ route.places c, mark ∉ place.text := by
  rw [toList_path h]
  simp [places, Place.text, hMark]

theorem confined_iff_kept (h : isTidyAfter "" route = true) :
    route.Confined c ↔ ∀ place ∈ route.places c, place.Kept := by
  constructor
  · rintro ⟨hSegments, hQuery, hFragment⟩ place hMem
    rw [splitAll_path h, Uri.Host.forall₂_flatMap_splitAll_iff] at hSegments
    exact ⟨(hSegments place hMem).1, (hSegments place hMem).2,
      (not_mem_path_iff (by decide) h).mp hQuery place hMem,
      (not_mem_path_iff (by decide) h).mp hFragment place hMem⟩
  · intro hKept
    refine ⟨?_, ?_, ?_⟩
    · rw [splitAll_path h, Uri.Host.forall₂_flatMap_splitAll_iff]
      exact fun place hMem => ⟨(hKept place hMem).slash, (hKept place hMem).holds⟩
    · exact (not_mem_path_iff (by decide) h).mpr fun place hMem => (hKept place hMem).mark
    · exact (not_mem_path_iff (by decide) h).mpr fun place hMem => (hKept place hMem).hash

theorem kept_of_mem_wordsOf (h : isTidyText text = true) {place : Place}
    (hMem : place ∈ wordsOf text) : place.Kept := by
  rw [isTidyText, Bool.and_eq_true] at h
  obtain ⟨written, hWritten, rfl⟩ := List.mem_map.mp hMem
  have hPart : written ∈ splitAll '/' text.toList := List.mem_of_mem_drop hWritten
  have hMarks : ∀ c ∈ written, c ≠ '?' ∧ c ≠ '#' := by
    intro c hChar
    have hClean := List.all_eq_true.mp h.2 c (Uri.Host.mem_of_mem_splitAll hPart hChar)
    simpa using hClean
  exact ⟨Uri.Host.not_mem_of_mem_splitAll hPart, rfl, fun hMark => (hMarks _ hMark).1 rfl,
    fun hHash => (hMarks _ hHash).2 rfl⟩

theorem kept_placesAfter_iff (h : isTidyAfter text route = true) :
    (∀ place ∈ placesAfter text route, place.Kept) ↔ ∀ id ∈ route.raw, Uri.Plain id := by
  induction route generalizing text with
  | nil =>
    have hWords : ∀ place ∈ placesAfter text [], place.Kept := fun _ => kept_of_mem_wordsOf h
    have hRaw : ∀ id ∈ raw [], Uri.Plain id := fun _ hMem => absurd hMem List.not_mem_nil
    exact iff_of_true hWords hRaw
  | cons piece route ih =>
    cases piece with
    | fixed more => exact ih h
    | named id otherwise =>
      rw [isTidyAfter, Bool.and_eq_true] at h
      have hWords : ∀ place ∈ wordsOf text, place.Kept := fun _ => kept_of_mem_wordsOf h.1
      have hRaw : raw (.named id otherwise :: route) = id :: raw route := rfl
      rw [placesAfter, List.forall_mem_append, List.forall_mem_cons, ih h.2, hRaw,
        List.forall_mem_cons, Place.kept_named_iff]
      exact and_iff_right hWords
    | encoded key otherwise =>
      rw [isTidyAfter, Bool.and_eq_true] at h
      have hWords : ∀ place ∈ wordsOf text, place.Kept := fun _ => kept_of_mem_wordsOf h.1
      have hRaw : raw (.encoded key otherwise :: route) = raw route := rfl
      rw [placesAfter, List.forall_mem_append, List.forall_mem_cons, ih h.2, hRaw]
      exact ⟨fun hKept => hKept.2.2, fun hKept => ⟨hWords, Place.kept_encoded key, hKept⟩⟩

theorem confined_iff (h : isTidyAfter "" route = true) :
    route.Confined c ↔ Uri.Plain c.id ∧ ∀ id ∈ route.raw, Uri.Plain id := by
  have hStart : (Place.word []).Kept := ⟨List.not_mem_nil, rfl, List.not_mem_nil, List.not_mem_nil⟩
  have hLevel : (Place.word c.level.segment.toList).Kept := by
    cases c.level <;> exact ⟨by decide, rfl, by decide, by decide⟩
  rw [confined_iff_kept h, places, List.forall_mem_cons, List.forall_mem_cons,
    List.forall_mem_cons, Place.kept_named_iff, kept_placesAfter_iff h]
  exact ⟨fun hKept => hKept.2.2, fun hKept => ⟨hStart, hLevel, hKept⟩⟩

end Route

namespace Operation

variable {α : Type}

theorem isTidy_route (op : Operation α) : op.route.isTidyAfter "" = true := by
  have hPolicies (application : String) :
      Route.isTidyAfter "" (policies application) = true := by
    unfold policies
    cases application.isEmpty <;> rfl
  have hPolicy (application id : String) (otherwise : Error) :
      Route.isTidyAfter "" (policies application ++ [.named id otherwise]) = true := by
    unfold policies
    cases application.isEmpty <;> rfl
  cases op with
  | listPolicies application | createPolicy application => exact hPolicies application
  | getPolicy application id | updatePolicy application id | deletePolicy application id =>
    exact hPolicy application id _
  | _ => rfl

/-- The requests of an operation go to its endpoint, in which each identifier has a segment of its
own and is read from it, exactly if the identifiers that are written as they are can be: those of
the container and of all resources but the keys of values. -/
theorem confined_iff_plain (op : Operation α) (hTyped : op.isTyped = true) (c : Container)
    (s : Session) :
    ∃ requests, ((op.run c).run s).2.sent.map Sent.request = s.sent.map Sent.request ++ requests ∧
      ∀ request ∈ requests, ∃ route query, op.Follows route ∧
        request.path = Uri.build (route.path c) query ∧
        (route.Confined c ↔ Uri.Plain c.id ∧ ∀ id ∈ route.raw, Uri.Plain id) := by
  obtain ⟨requests, hSent, hSends⟩ := op.exists_sends c s
  refine ⟨requests, hSent, ?_⟩
  intro request hMem
  obtain ⟨route, query, hFollows, hPath⟩ := hSends request hMem hTyped
  have hTidy : route.isTidyAfter "" = true := by
    rcases hFollows with rfl | ⟨-, id, -, rfl⟩
    · exact op.isTidy_route
    · rfl
  exact ⟨route, query, hFollows, hPath, Route.confined_iff hTidy⟩

theorem confined_iff_plain_getList :
    (getList "L 1").isTyped = true ∧
      ∃ requests, (((getList "L 1").run ⟨.account, "A"⟩).run {}).2.sent.map Sent.request =
          requests ∧
        ∀ request ∈ requests, ∃ route query, (getList "L 1").Follows route ∧
          request.path = Uri.build (route.path ⟨.account, "A"⟩) query ∧
          (route.Confined ⟨.account, "A"⟩ ↔
            Uri.Plain "A" ∧ ∀ id ∈ route.raw, Uri.Plain id) := by
  obtain ⟨requests, hSent, hConfined⟩ :=
    confined_iff_plain (getList "L 1") rfl ⟨.account, "A"⟩ {}
  exact ⟨rfl, requests, hSent, hConfined⟩

/-- Deleting a list of this name is a request to delete items of another list. -/
theorem not_confined_deleteList :
    (((deleteList "L/items").run ⟨.account, "A"⟩).run {}).2.sent.map
        (fun sent => (sent.request.method, sent.request.path)) =
      [((Change.remove []).method, ((Change.remove []).request "L" ⟨.account, "A"⟩).path)] ∧
    ¬ (deleteList "L/items").route.Confined ⟨.account, "A"⟩ := by
  refine ⟨by decide +kernel, ?_⟩
  intro hConfined
  have hPlain := (Route.confined_iff (deleteList "L/items").isTidy_route).mp hConfined
  exact (hPlain.2 "L/items" (List.mem_singleton_self _)).slash (by decide)

end Operation

end EdgeApi
