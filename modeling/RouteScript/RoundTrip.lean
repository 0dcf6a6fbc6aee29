import RouteScript.Parse
import RouteScript.Format

/-!
# Round trips

A text is read and written, and the result is read and written again.
-/

namespace RouteScript

inductive RoundTrip where
  | notRead (d : Diagnostic)
  | notWritten (f : FormatFault)
  | notReread (first : Text) (d : Diagnostic)
  | notRewritten (first : Text) (f : FormatFault)
  | done (first : Text) (script : Script) (second : Text)
  deriving DecidableEq, Repr

def roundTrip (po : ParseOptions) (fo : FormatOptions) (t : Text) : RoundTrip :=
  match Script.parse po t with
  | .error d => .notRead d
  | .ok s =>
    match s.format fo with
    | .error f => .notWritten f
    | .ok first =>
      match Script.parse po first with
      | .error d => .notReread first d
      | .ok s' =>
        match s'.format fo with
        | .error f => .notRewritten first f
        | .ok second => .done first s' second

end RouteScript
