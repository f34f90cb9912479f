import ComposeLint.Json.Codec

/-!
# Forms

The form of a part of a document of which only the form matters. A record is lenient: every
member may be missing or null, and members it does not name may be anything.
-/

namespace ComposeLint

inductive Json.Form where
  | any
  | text
  | flag
  /-- An integer of 64 bits. -/
  | integer
  /-- An integer of 32 bits. -/
  | shortInteger
  | number
  | list (item : Form)
  | map (value : Form)
  | record (members : List (String × Form))

namespace Json.Form

mutual

def accepts : Form → Json → Bool
  | any, _ => true
  | text, .str _ => true
  | flag, .bool _ => true
  | integer, .int n => Int64.minValue.toInt ≤ n && n ≤ Int64.maxValue.toInt
  | shortInteger, .int n => Int32.minValue.toInt ≤ n && n ≤ Int32.maxValue.toInt
  | number, .int _ => true
  | number, .double _ => true
  | list item, .arr items => items.all (accepts item)
  | map value, .obj members => members.all fun pair => accepts value pair.2
  | record forms, .obj members => acceptsMembers forms members
  | _, _ => false

def acceptsMembers : List (String × Form) → Keyed String Json → Bool
  | [], _ => true
  | (name, form) :: rest, members =>
    (match Keyed.get? name members with
      | none | some .null => true
      | some value => accepts form value) && acceptsMembers rest members

end

end Json.Form

end ComposeLint
