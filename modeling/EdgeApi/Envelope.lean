import EdgeApi.Notice
import EdgeApi.ResultInfo

/-!
# Envelopes

The common form of response bodies around results of a type.
-/

set_option autoImplicit false

namespace EdgeApi

structure Envelope (α : Type) where
  success : Bool
  errors : List Notice
  messages : List Notice
  result : Option α
  info : Option ResultInfo
  deriving DecidableEq

namespace Envelope

variable {α : Type}

def fields (c : Codec α) := (
  .cons (.lenient "success" .bool false success) <|
  .cons (.items "errors" Notice.codec errors) <|
  .cons (.items "messages" Notice.codec messages) <|
  .cons (.nullable "result" c result) <|
  .cons (.nullable "result_info" ResultInfo.codec info) .nil : Fields (Envelope α) _ _)

def codec (c : Codec α) : Codec (Envelope α) :=
  .record "Envelope" (fields c) fun (success, errors, messages, result, info, ()) =>
    { success, errors, messages, result, info }

end Envelope

end EdgeApi
