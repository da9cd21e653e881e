import FileShare.Error

/-!
# Expected errors

Whether a result is the service error that was expected.  A result that is not
gives the message of a failed expectation.
-/

set_option autoImplicit false

namespace FileShare

namespace Scratch

/-- What is wrong with a result that should be a service error with a given code;
nothing if it is one.  `describe` shows the value of a success. -/
def unmetExpectation? {α : Type} (describe : α -> Text) (result : Except StorageError α)
    (code : Text) : Option Text :=
  match result with
  | .ok value =>
      some ("expected service error " ++ code ++ ", got success: " ++ describe value)
  | .error error =>
      match error.serviceCode? with
      | none => some ("expected service error " ++ code ++ ", got: " ++ error.message)
      | some actual =>
          if actual = code then none
          else
            some ("assertion \x60left == right\x60 failed: unexpected service code: " ++
              error.message ++ "\n  left: " ++ Text.quoted actual ++ "\n right: " ++
              Text.quoted code)

end Scratch

end FileShare
