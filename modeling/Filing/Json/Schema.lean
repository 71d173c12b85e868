import Filing.Json.Reading
import Filing.Index

/-!
# Data out of JSON text

Decoders turn a reading into data, or say what is wrong: the text is no JSON, or it is JSON that
holds something else.  Where a text has several faults, the one that stands first in it counts, and
a member that is missing from an object counts where the object ends.

* `Reading.text`, `natural`, `integer`, `boolean`, `parsed` — decoders of single values;
* `Reading.optional`, `many`, `choice`, `textIndex` — decoders built from them;
* `Schema` — the members of a record, put together member by member;
* `Schema.read` — a record out of an object, or out of an array of the members in their order.
-/

set_option autoImplicit false

namespace Filing

/-- What is wrong with a text that should hold data. -/
inductive Fault where
  /-- The text is no JSON. -/
  | malformed
  /-- The text is JSON but holds something else. -/
  | mismatched
deriving DecidableEq, Repr

namespace Reading

/-! ## Single values -/

/-- What is wrong where another kind of value should stand. -/
def refuse : Reading → Fault
  | .broken => .malformed
  | .valueless => .malformed
  | _ => .mismatched

/-- A text. -/
def text : Reading → Except Fault String
  | .str s => .ok s
  | r => .error r.refuse

/-- A text that spells a value of another kind. -/
def parsed {α : Type} (f : String → Option α) : Reading → Except Fault α
  | .str s => match f s with
    | some a => .ok a
    | none => .error .mismatched
  | r => .error r.refuse

/-- A truth value. -/
def boolean : Reading → Except Fault Bool
  | .bool b => .ok b
  | r => .error r.refuse

/-- A whole number from `low` to `high`. -/
def integer (low high : Int) : Reading → Except Fault Int
  | .int n => if low ≤ n ∧ n ≤ high then .ok n else .error .mismatched
  | r => .error r.refuse

/-- A natural number up to `bound`. -/
def natural (bound : Nat) : Reading → Except Fault Nat
  | .int n => if 0 ≤ n ∧ n ≤ bound then .ok n.toNat else .error .mismatched
  | r => .error r.refuse

/-! ## Values of other values -/

/-- A value, or `null` for none. -/
def optional {α : Type} (f : Reading → Except Fault α) : Reading → Except Fault (Option α)
  | .null => .ok none
  | r => (f r).map some

/-- The values of all items of an array. -/
def many {α : Type} (f : Reading → Except Fault α) : Reading → Except Fault (List α)
  | .arr items closed =>
    (items.mapM f).bind fun as => if closed then .ok as else .error .malformed
  | r => .error r.refuse

/-- One of several named values.  The name is a text, or the only member name of an object whose
member is `null`; anything else has no place in the text at all. -/
def choice {α : Type} (named : String → Option α) : Reading → Except Fault α
  | .str s => match named s with
    | some a => .ok a
    | none => .error .mismatched
  | .obj ((some s, r) :: rest) closed =>
    match named s, r with
    | none, _ => .error .mismatched
    | some a, .null => if rest.isEmpty && closed then .ok a else .error .malformed
    | some _, r => .error r.refuse
  | _ => .error .malformed

mutual

/-- The reading has no broken spot: it may be passed over. -/
def isWhole : Reading → Bool
  | .broken => false
  | .arr items closed => closed && areWhole items
  | .obj members closed => closed && membersAreWhole members
  | _ => true

/-- None of the items has a broken spot. -/
def areWhole : List Reading → Bool
  | [] => true
  | r :: rest => r.isWhole && areWhole rest

/-- No member has a broken spot. -/
def membersAreWhole : List (Option String × Reading) → Bool
  | [] => true
  | (_, r) :: rest => r.isWhole && membersAreWhole rest

end

mutual

/-- The reading may be set aside and looked at later: it is whole, everything in it stands for
something, and it is nested at most `depth` deep. -/
def isStorable (depth : Nat) : Reading → Bool
  | .broken => false
  | .valueless => false
  | .arr items closed =>
    match depth with
    | 0 => false
    | d + 1 => closed && areStorable d items
  | .obj members closed =>
    match depth with
    | 0 => false
    | d + 1 => closed && membersAreStorable d members
  | _ => true

/-- All items may be set aside. -/
def areStorable (depth : Nat) : List Reading → Bool
  | [] => true
  | r :: rest => r.isStorable depth && areStorable depth rest

/-- All members may be set aside. -/
def membersAreStorable (depth : Nat) : List (Option String × Reading) → Bool
  | [] => true
  | (name, r) :: rest => name.isSome && r.isStorable depth && membersAreStorable depth rest

end

/-- The names and texts of an object whose members are texts. -/
def textMembers : List (Option String × Reading) → Except Fault (List (String × String))
  | [] => .ok []
  | (none, _) :: _ => .error .malformed
  | (some name, r) :: rest => do
    let value ← r.text
    return (name, value) :: (← textMembers rest)

/-- Texts under names. -/
def textIndex : Reading → Except Fault (Index String)
  | .obj members closed => do
    let es ← textMembers members
    if closed then return Index.ofList es else .error .malformed
  | r => .error r.refuse

/-- The last member of an object with the given name; without one, `null`. -/
def member (name : String) : Reading → Reading
  | .obj members _ =>
    ((members.reverse.find? fun m => m.1 == some name).map (·.2)).getD .null
  | _ => .null

end Reading

/-! ## Records -/

/-- A member of a record, as far as it matters before all members have been seen. -/
structure Field where
  name : String
  /-- What is wrong with a value of the member. -/
  fault? : Reading → Option Fault
  /-- An object may leave the member out. -/
  inObject : Bool
  /-- An array may end before the member. -/
  inArray : Bool

/-- The members of a record and how the record is built from their values. -/
structure Schema (α : Type) where
  fields : List Field
  build : (String → Option Reading) → Except Fault α

namespace Schema

variable {α β : Type}

instance : Functor Schema where
  map f s := ⟨s.fields, fun get => (s.build get).map f⟩

instance : Applicative Schema where
  pure a := ⟨[], fun _ => .ok a⟩
  seq s t :=
    let t := t ()
    ⟨s.fields ++ t.fields, fun get => (s.build get).bind fun f => (t.build get).map f⟩

/-- What a decoder finds wrong with a reading. -/
def faultOf (f : Reading → Except Fault α) (r : Reading) : Option Fault :=
  match f r with
  | .ok _ => none
  | .error e => some e

/-- A member that has to be there. -/
def required (name : String) (f : Reading → Except Fault α) : Schema α where
  fields := [⟨name, faultOf f, false, false⟩]
  build get := match get name with
    | some r => f r
    | none => .error .mismatched

/-- A member that may be left out of an object, or be `null`. -/
def possible (name : String) (f : Reading → Except Fault α) : Schema (Option α) where
  fields := [⟨name, faultOf (Reading.optional f), true, false⟩]
  build get := match get name with
    | some r => Reading.optional f r
    | none => .ok none

/-- A member that has a value where it is left out. -/
def defaulted (name : String) (value : α) (f : Reading → Except Fault α) : Schema α where
  fields := [⟨name, faultOf f, true, true⟩]
  build get := match get name with
    | some r => f r
    | none => .ok value

/-- The members of an object that the record has, by name.  Other members are passed over; a member
that stands twice is a mismatch. -/
def pick (fields : List Field) (seen : List (String × Reading)) :
    List (Option String × Reading) → Except Fault (List (String × Reading))
  | [] => .ok seen
  | (none, _) :: _ => .error .malformed
  | (some name, r) :: rest =>
    match fields.find? (·.name == name) with
    | none => if r.isWhole then pick fields seen rest else .error .malformed
    | some f =>
      if seen.any (·.1 == name) then .error .mismatched
      else match f.fault? r with
        | some e => .error e
        | none => pick fields ((name, r) :: seen) rest

/-- The items of an array by the names of the members that stand there. -/
def align (closed : Bool) : List Field → List Reading → Except Fault (List (String × Reading))
  | [], [] => if closed then .ok [] else .error .malformed
  | [], _ :: _ => .error .malformed
  | f :: fs, [] =>
    if !closed then .error .malformed
    else if f.inArray then align closed fs []
    else .error .mismatched
  | f :: fs, r :: rs =>
    match f.fault? r with
    | some e => .error e
    | none => (align closed fs rs).map ((f.name, r) :: ·)

/-- A record out of an object, or out of an array of its members in their order. -/
def read (s : Schema α) : Reading → Except Fault α
  | .obj members closed => do
    let es ← pick s.fields [] members
    if closed then s.build (Index.seek · es) else .error .malformed
  | .arr items closed => do
    let es ← align closed s.fields items
    s.build (Index.seek · es)
  | r => .error r.refuse

end Schema

end Filing
