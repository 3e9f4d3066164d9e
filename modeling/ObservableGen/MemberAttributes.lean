import ObservableGen.Compilation.Table
import ObservableGen.FirstSeen
import ObservableGen.Marker
import ObservableGen.Text.Blank
set_option autoImplicit false

/-!
What the attributes beside `[Notify]` say: further names to notify, attributes to carry over, and
the resource to localize from.
-/
namespace ObservableGen

namespace MemberAttributes

def listedNames (applied : Attribute) : List String :=
  match applied.positional.head? with
  | none => []
  | some (.array values) => values.filterMap Constant.asText?
  | some value => value.asText?.toList

-- Every further name to notify, each once in the order in which they are first listed, the empty name
-- left out.
def alsoNotified (attributes : List Attribute) : List String :=
  let listed := (Attribute.ofClass attributes AttributeClass.alsoNotify).flatMap listedNames
  (listed.filter (· != "")).eraseDups

-- Brackets go around a text that neither begins nor ends with one; a blank text gives none.
def bracketed (written : String) : Option String :=
  let text := Text.trimmed written
  if text = "" then none
  else if text.toList.head? = some '[' ∨ text.toList.getLast? = some ']' then some text
  else some ("[" ++ text ++ "]")

def customAttributes (attributes : List Attribute) : List String :=
  (Attribute.ofClass attributes AttributeClass.customAttribute).filterMap fun applied =>
    (applied.positional.head?.bind Constant.asText?).bind bracketed

-- The file name of the resource to localize from: the last text among the positional arguments, without
-- its directories. An empty name gives none.
def localizeResource (attributes : List Attribute) : Option String :=
  match Attribute.findBySimpleName attributes AttributeClass.localize.path with
  | none => none
  | some applied =>
    match applied.positional.reverse.findSome? Constant.asText? with
    | none => none
    | some path =>
      let name := fileName (Text.trimmed path)
      if name = "" then none else some name

theorem also_notified_nodup (attributes : List Attribute) : (alsoNotified attributes).Nodup :=
  FirstSeen.nodup_erase_dups _

theorem also_notified_nonempty (attributes : List Attribute) (name : String)
    (listed : name ∈ alsoNotified attributes) : name ≠ "" := by
  have kept := List.mem_eraseDups.1 listed
  simpa using (List.mem_filter.1 kept).2

end MemberAttributes

end ObservableGen
