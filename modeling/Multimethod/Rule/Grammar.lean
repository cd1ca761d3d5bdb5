import Multimethod.Tag

/-!
The grammar of rules for the reader: what can be written, and what it accepts.
-/
namespace Multimethod.Rule

/-- What is written, padded to the width of the column, and what it accepts. -/
def grammarLine (form meaning : String) : String :=
  form ++ String.ofList (List.replicate (12 - form.length) ' ') ++ " " ++ meaning

/-- One line for each form of a rule: the tags, the star, the question mark and the union. -/
def grammarLines : List String :=
  Tag.all.map (fun tag => grammarLine tag.name tag.description) ++ [
    grammarLine "*" "anything",
    grammarLine "T?" "whatever T accepts, plus null",
    grammarLine "[a, b]" "whatever any member accepts"]

end Multimethod.Rule
