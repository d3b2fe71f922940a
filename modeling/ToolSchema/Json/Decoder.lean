import ToolSchema.Json.Skip

/-!
# Decoders

How a value of a domain type is read from JSON, from a text or from a value that is already there. A
text is decoded while it is read, so that the first fault in reading order is the one reported, be it
of the text or a mismatch.

A value can be there for two reasons, its `Origin`: it is held on its own account, or it was read from
a text for later, because the case that it belongs to was not known yet (`Decoder.tagged`). The two
differ in the words for a list that is too long and in what an empty case accepts.

A `Decoder.record` starts from a blank record and lets every field that it meets fill in its part. It
takes an object, whose members may come in any order and of which unknown ones are passed over, or a
list of the fields in their order, where fields with a default may be missing at the end.
-/

namespace ToolSchema

namespace Json

/-- Why a value is there before it is decoded. -/
inductive Origin where
  | held
  | buffered
  deriving DecidableEq, Repr

/-- How values of a type are read. The reader of a text takes the number of levels that are left. -/
structure Decoder (α : Type) where
  fromText : Nat → Reader α
  fromValue : Origin → Json → Except Mismatch α

/-- The number of nested lists and objects that a text may have. -/
def maxDepth : Nat := 127

namespace Decoder

variable {α β : Type}

/-- Reads a whole text. -/
def readText (d : Decoder α) (text : String) : Except TextError α :=
  let cs := text.toList
  match (d.fromText maxDepth).run cs with
  | .error fault => .error (.ofFault cs fault)
  | .ok (v, rest) =>
    match skipGap rest with
    | [] => .ok v
    | last => .error (.ofFault cs (.onNext .trailingCharacters last))

/-- Reads a value. -/
def readValue (d : Decoder α) (j : Json) : Except Mismatch α := d.fromValue .held j

/-- Decodes and changes the result. -/
def map (f : α → β) (d : Decoder α) : Decoder β where
  fromText room := (d.fromText room).map f
  fromValue origin j := (d.fromValue origin j).map f

/-! ### Values without parts -/

/-- A value without brackets that `accept` takes. -/
def scalar (expected : String) (accept : Json → Except Mismatch α) : Decoder α where
  fromText _ := .scalar accept expected
  fromValue _ := accept

/-- The mismatch of a value of the wrong type. -/
def wrongType (expected : String) (j : Json) : Mismatch := .invalidType (.ofJson j) expected

/-- A string, for which messages say what is expected. -/
def text (expected : String) : Decoder String :=
  scalar expected fun
    | .string s => .ok s
    | j => .error (wrongType expected j)

/-- A string. -/
def string : Decoder String := text "a string"

/-- A truth value. -/
def bool : Decoder Bool :=
  scalar "a boolean" fun
    | .bool b => .ok b
    | j => .error (wrongType "a boolean" j)

/-- An integer that is not negative and lies below a bound. -/
def natBelow (bound : Nat) (expected : String) : Decoder Nat :=
  scalar expected fun
    | .number (.integer i) =>
      if 0 ≤ i.value ∧ i.value < bound then .ok i.value.toNat
      else .error (.invalidValue (.number (.integer i)) expected)
    | j => .error (wrongType expected j)

/-- An unsigned half word. -/
def u32 : Decoder UInt32 := (natBelow UInt32.size "u32").map UInt32.ofNat

/-- An unsigned word. -/
def u64 : Decoder UInt64 := (natBelow UInt64.size "u64").map UInt64.ofNat

/-- Any value; of a key that repeats, the last value counts. -/
def any : Decoder Json where
  fromText room := (Reader.json room).map merged
  fromValue _ j := .ok j.merged

/-- Null, or a value. -/
def option (d : Decoder α) : Decoder (Option α) where
  fromText room :=
    { run := fun cs ↦
        match skipGap cs with
        | 'n' :: rest =>
          match scanWord ['u', 'l', 'l'] rest with
          | .error fault => .error fault
          | .ok (_, rest) => .ok (none, rest)
        | _ => ((d.fromText room).map some).run cs
      shorter := by
        intro cs rest v h
        split at h
        · next hs =>
          split at h
          · cases h
          · next hw =>
            cases h
            have := length_rest_lt_of_skipGap hs
            have := length_le_of_scanWord hw
            omega
        · exact Reader.shorter _ h }
  fromValue origin
    | .null => .ok none
    | j => (d.fromValue origin j).map some

/-! ### Lists and dictionaries -/

/-- The results for all items of a list, or the first mismatch. -/
def itemsOf (item : Json → Except Mismatch α) : List Json → Except Mismatch (List α)
  | [] => .ok []
  | j :: rest =>
    match item j with
    | .error mismatch => .error mismatch
    | .ok v => (itemsOf item rest).map (v :: ·)

/-- A list. -/
def list (d : Decoder α) : Decoder (List α) where
  fromText room :=
    .value (fun j ↦ .error (wrongType "a sequence" j))
      (.nested room fun room ↦
        (Reader.items (fun found ↦ (d.fromText room).map (· :: found)) []).map List.reverse)
      (.refuse .map "a sequence")
  fromValue origin
    | .array items => itemsOf (d.fromValue origin) items
    | j => .error (wrongType "a sequence" j)

/-- The results for the values of all members, or the first mismatch. -/
def membersOf (value : Json → Except Mismatch α) :
    List (String × α) → List (String × Json) → Except Mismatch (List (String × α))
  | found, [] => .ok found
  | found, (key, j) :: rest =>
    match value j with
    | .error mismatch => .error mismatch
    | .ok v => membersOf value (insertMember found key v) rest

/-- An object with keys of any name. Of a key that repeats, the last value counts. -/
def dictionary (d : Decoder α) : Decoder (List (String × α)) where
  fromText room :=
    .value (fun j ↦ .error (wrongType "a map" j))
      (.refuse .sequence "a map")
      (.nested room fun room ↦
        Reader.members
          (fun found key ↦ ((d.fromText room).map (insertMember found key)).afterColon) [])
  fromValue origin
    | .object members => membersOf (d.fromValue origin) [] members
    | j => .error (wrongType "a map" j)

/-! ### Records -/

/-- A field of a record: its name, whether it must be there, and how its value fills it in. -/
structure Field (α : Type) where
  name : String
  isRequired : Bool
  fill : Decoder (α → α)

/-- A field that must be there. -/
def Field.required (name : String) (d : Decoder β) (set : β → α → α) : Field α :=
  ⟨name, true, d.map set⟩

/-- A field that keeps the value of the blank record if it is not there. -/
def Field.defaulted (name : String) (d : Decoder β) (set : β → α → α) : Field α :=
  ⟨name, false, d.map set⟩

/-- A record while it is read: the fields filled in so far, and their names. -/
structure Filling (α : Type) where
  record : α
  seen : List String

/-- The record, unless a field that must be there was not seen. -/
def Filling.finish (fields : List (Field α)) (filling : Filling α) : Except Mismatch α :=
  match fields.find? fun f ↦ f.isRequired && !filling.seen.contains f.name with
  | some f => .error (.missingField f.name)
  | none => .ok filling.record

/-- The words for a list of the fields of a record. -/
def listForm (title : String) (count : Nat) : String :=
  "struct " ++ title ++ " with " ++ toString count ++ if count = 1 then " element" else " elements"

/-- The record, unless a field that must be there is among those that are left when the list of fields
ends before its item `index`. -/
def finishList (expected : String) (index : Nat) (record : α) :
    List (Field α) → Except Mismatch α
  | [] => .ok record
  | f :: rest =>
    if f.isRequired then .error (.invalidLength index expected)
    else finishList expected (index + 1) record rest

/-- Fills fields in from the items of a list in a text. -/
def readFields (room : Nat) (expected : String) (first : Bool) (index : Nat) (record : α)
    (fields : List (Field α)) (cs : List Char) : Scan α :=
  match fields with
  | [] =>
    match endList cs with
    | .error fault => .error fault
    | .ok (_, rest) => .ok (record, rest)
  | f :: more =>
    match nextItem first cs with
    | .error fault => .error fault
    | .ok (.done rest) =>
      match finishList expected index record fields with
      | .error mismatch => .error (.placed (.mismatch mismatch) (byteCount rest))
      | .ok record => .ok (record, rest)
    | .ok (.item rest) =>
      match (f.fill.fromText room).run rest with
      | .error fault => .error (fault.settled passListEnd)
      | .ok (set, rest) => readFields room expected false (index + 1) (set record) more rest

theorem length_lt_of_readFields {room : Nat} {expected : String} {first : Bool} {index : Nat}
    {record v : α} {fields : List (Field α)} {cs rest : List Char}
    (h : readFields room expected first index record fields cs = .ok (v, rest)) :
    rest.length < cs.length := by
  induction fields generalizing first index record cs with
  | nil =>
    simp only [readFields] at h
    split at h
    · cases h
    · next he =>
      cases h
      exact length_lt_of_endList he
  | cons f more ih =>
    simp only [readFields] at h
    split at h
    · cases h
    · next hs =>
      split at h
      · cases h
      · cases h
        exact length_lt_of_nextItem_done hs
    · next hs =>
      split at h
      · cases h
      · next hr =>
        have := length_le_of_nextItem hs
        have := Reader.shorter _ hr
        have := ih h
        omega

/-- Fills in the field that the member of an object belongs to. -/
def readMember (room : Nat) (fields : List (Field α)) (filling : Filling α) (key : String) :
    Reader (Filling α) :=
  match fields.find? fun f ↦ f.name == key with
  | none => (Reader.skip.map fun _ ↦ filling).afterColon
  | some f =>
    if filling.seen.contains f.name then .fail (.pending (.duplicateField f.name))
    else
      ((f.fill.fromText room).map fun set ↦ ⟨set filling.record, f.name :: filling.seen⟩).afterColon

/-- Reads a record after the opening bracket of an object. -/
def readRecord (room : Nat) (blank : α) (fields : List (Field α)) : Reader α where
  run cs :=
    match foldMembers (readMember room fields) true ⟨blank, []⟩ cs with
    | .error fault => .error fault
    | .ok (filling, rest) =>
      match filling.finish fields with
      | .error mismatch => .error (.placed (.mismatch mismatch) (byteCount rest))
      | .ok record => .ok (record, rest)
  shorter {cs rest v} h := by
    split at h
    · cases h
    · next hf =>
      split at h
      · cases h
      · cases h
        exact length_lt_of_foldMembers hf

/-- The mismatch of a list with more items than a record has fields. -/
def tooLong (origin : Origin) (length count : Nat) : Mismatch :=
  match origin with
  | .held => .invalidLength length "fewer elements in array"
  | .buffered =>
    .invalidLength length
      (if count = 1 then "1 element in sequence" else toString count ++ " elements in sequence")

/-- Fills fields in from the items of a list; gives the items that are left as well. -/
def fillFields (origin : Origin) (expected : String) (index : Nat) (record : α) :
    List (Field α) → List Json → Except Mismatch (α × List Json)
  | [], items => .ok (record, items)
  | fields, [] => (finishList expected index record fields).map (·, [])
  | f :: more, j :: items =>
    match f.fill.fromValue origin j with
    | .error mismatch => .error mismatch
    | .ok set => fillFields origin expected (index + 1) (set record) more items

/-- Fills fields in from the members of an object. -/
def fillMembers (origin : Origin) (fields : List (Field α)) :
    Filling α → List (String × Json) → Except Mismatch (Filling α)
  | filling, [] => .ok filling
  | filling, (key, j) :: members =>
    match fields.find? fun f ↦ f.name == key with
    | none => fillMembers origin fields filling members
    | some f =>
      if filling.seen.contains f.name then .error (.duplicateField f.name)
      else
        match f.fill.fromValue origin j with
        | .error mismatch => .error mismatch
        | .ok set =>
          fillMembers origin fields ⟨set filling.record, f.name :: filling.seen⟩ members

/-- A record with these fields, in an object or in a list. -/
def record (title : String) (blank : α) (fields : List (Field α)) : Decoder α :=
  let expected := "struct " ++ title
  let expectedList := listForm title fields.length
  { fromText := fun room ↦
      .value (fun j ↦ .error (wrongType expected j))
        (.nested room fun room ↦
          { run := readFields room expectedList true 0 blank fields
            shorter := length_lt_of_readFields })
        (.nested room fun room ↦ readRecord room blank fields)
    fromValue := fun origin j ↦
      match j with
      | .array items =>
        match fillFields origin expectedList 0 blank fields items with
        | .error mismatch => .error mismatch
        | .ok (record, []) => .ok record
        | .ok _ => .error (tooLong origin items.length fields.length)
      | .object members =>
        match fillMembers origin fields ⟨blank, []⟩ members with
        | .error mismatch => .error mismatch
        | .ok filling => filling.finish fields
      | j => .error (wrongType expected j) }

/-! ### Cases -/

/-- A case of a choice: a bare name, or a name with a value. -/
inductive Case (α : Type) where
  | bare (name : String) (value : α)
  | carrying (name : String) (payload : Decoder α)

namespace Case

/-- The name of the case. -/
def name : Case α → String
  | bare name _ => name
  | carrying name _ => name

/-- Reads the value after the name of the case. -/
def fromText (room : Nat) : Case α → Reader α
  | bare _ value =>
    .scalar (fun
      | .null => .ok value
      | j => .error (wrongType "unit" j)) "unit"
  | carrying _ payload => payload.fromText room

/-- The value of a case whose name stands alone. -/
def alone : Case α → Except Mismatch α
  | bare _ value => .ok value
  | carrying _ _ => .error (.invalidType .bareCase "newtype variant")

/-- The value of a case with a value beside its name. -/
def fromValue (origin : Origin) (j : Json) : Case α → Except Mismatch α
  | bare _ value =>
    match origin, j with
    | _, .null => .ok value
    | .buffered, .object [] => .ok value
    | _, j => .error (wrongType "unit" j)
  | carrying _ payload => payload.fromValue origin j

end Case

/-- The case of a name. -/
def findCase (cases : List (Case α)) (name : String) : Except Mismatch (Case α) :=
  match cases.find? fun c ↦ c.name == name with
  | some c => .ok c
  | none => .error (.unknownCase name (cases.map Case.name))

/-- What a name decodes to, or why it is refused. -/
def named (find : String → Except Mismatch β) : Json → Except Mismatch β
  | .string name => find name
  | j => .error (wrongType "variant identifier" j)

/-- Reads a case after the opening bracket of an object with the case as its only member. -/
def readCase (room : Nat) (cases : List (Case α)) : Reader α where
  run cs :=
    match (Reader.scalar (named (findCase cases)) "variant identifier").run cs with
    | .error fault => .error fault
    | .ok (c, rest) =>
      match (c.fromText room).afterColon.run rest with
      | .error fault => .error fault
      | .ok (v, rest) =>
        match skipGap rest with
        | [] => .error (.before .endInObject [])
        | '\x7d' :: rest => .ok (v, rest)
        | rest => .error (.before .expectedValue rest)
  shorter {cs rest v} h := by
    split at h
    · cases h
    · next hc =>
      have := Reader.shorter _ hc
      split at h
      · cases h
      · next hv =>
        have := Reader.shorter _ hv
        split at h
        · cases h
        · next hs =>
          cases h
          have := length_rest_lt_of_skipGap hs
          omega
        · cases h

/-- Reads a case whose name stands alone, after its opening quote. -/
def readAlone (cases : List (Case α)) (cs : List Char) : Scan α :=
  match scanString cs with
  | .error fault => .error fault
  | .ok (name, rest) =>
    match findCase cases (String.ofList name) with
    | .error mismatch => .error (.placed (.mismatch mismatch) (byteCount rest))
    | .ok c =>
      match c.alone with
      | .error mismatch => .error (.pending mismatch rest)
      | .ok v => .ok (v, rest)

theorem length_lt_of_readAlone {cases : List (Case α)} {cs rest : List Char} {v : α}
    (h : readAlone cases cs = .ok (v, rest)) : rest.length < cs.length := by
  unfold readAlone at h
  split at h
  · cases h
  · next hs =>
    split at h
    · cases h
    · split at h
      · cases h
      · cases h
        exact length_lt_of_scanString hs

/-- One of several cases: its name, or an object with its name as the only key. -/
def choice (cases : List (Case α)) : Decoder α where
  fromText room :=
    { run := fun cs ↦
        match skipGap cs with
        | [] => .error (.before .endInValue [])
        | '\x7b' :: rest => (Reader.nested room fun room ↦ readCase room cases).run rest
        | '"' :: rest => readAlone cases rest
        | rest => .error (.onNext .expectedValue rest)
      shorter := by
        intro cs rest v h
        split at h
        · cases h
        · next hs =>
          have := length_rest_lt_of_skipGap hs
          have := Reader.shorter _ h
          omega
        · next hs =>
          have := length_rest_lt_of_skipGap hs
          have := length_lt_of_readAlone h
          omega
        · cases h }
  fromValue origin
    | .object [(name, j)] =>
      match findCase cases name with
      | .error mismatch => .error mismatch
      | .ok c => c.fromValue origin j
    | .object _ => .error (.invalidValue .map "map with a single key")
    | .string name =>
      match findCase cases name with
      | .error mismatch => .error mismatch
      | .ok c => c.alone
    | j => .error (wrongType "string or map" j)

/-- One of several bare names. -/
def names (values : List (String × α)) : Decoder α :=
  choice (values.map fun v ↦ .bare v.1 v.2)

/-! ### Tagged records -/

/-- The decoder of the case that a tag names. -/
def findTagged (cases : List (String × Decoder α)) (tag : String) : Except Mismatch (Decoder α) :=
  match cases.find? fun c ↦ c.1 == tag with
  | some c => .ok c.2
  | none => .error (.unknownCase tag (cases.map Prod.fst))

/-- A tagged record while it is read: the decoder that its tag names, and all else. -/
structure Tagging (α : Type) where
  decoder : Option (Decoder α)
  members : List (String × Json)

/-- Reads the tag, or keeps a member for later. -/
def readTagged (room : Nat) (key : String) (cases : List (String × Decoder α))
    (tagging : Tagging α) (name : String) : Reader (Tagging α) :=
  if name == key then
    if tagging.decoder.isSome then .fail (.pending (.duplicateField key))
    else
      ((Reader.scalar (named (findTagged cases)) "variant identifier").map fun d ↦
        { tagging with decoder := some d }).afterColon
  else
    ((Reader.json room).map fun j ↦
      { tagging with members := (name, j) :: tagging.members }).afterColon

/-- Reads a tagged record after the opening bracket of an object. -/
def readTaggedObject (room : Nat) (key : String) (cases : List (String × Decoder α)) :
    Reader α where
  run cs :=
    match foldMembers (readTagged room key cases) true ⟨none, []⟩ cs with
    | .error fault => .error fault
    | .ok (tagging, rest) =>
      match tagging.decoder with
      | none => .error (.placed (.mismatch (.missingField key)) (byteCount rest))
      | some d =>
        match d.fromValue .buffered (.object tagging.members.reverse) with
        | .error mismatch => .error (.pending mismatch rest)
        | .ok v => .ok (v, rest)
  shorter {cs rest v} h := by
    split at h
    · cases h
    · next hf =>
      split at h
      · cases h
      · split at h
        · cases h
        · cases h
          exact length_lt_of_foldMembers hf

/-- Reads a tagged record after the opening bracket of a list, whose first item is the tag. -/
def readTaggedList (room : Nat) (key : String) (cases : List (String × Decoder α)) : Reader α where
  run cs :=
    match nextItem true cs with
    | .error fault => .error fault
    | .ok (.done rest) => .error (.placed (.mismatch (.missingField key)) (byteCount rest))
    | .ok (.item rest) =>
      match (Reader.scalar (named (findTagged cases)) "variant identifier").run rest with
      | .error fault => .error fault
      | .ok (d, rest) =>
        match foldItems (fun found ↦ (Reader.json room).map (· :: found)) false [] rest with
        | .error fault => .error fault
        | .ok (found, rest) =>
          match d.fromValue .buffered (.array found.reverse) with
          | .error mismatch => .error (.pending mismatch rest)
          | .ok v => .ok (v, rest)
  shorter {cs rest v} h := by
    split at h
    · cases h
    · cases h
    · next hs =>
      have := length_le_of_nextItem hs
      split at h
      · cases h
      · next hd =>
        have := Reader.shorter _ hd
        split at h
        · cases h
        · next hf =>
          have := length_lt_of_foldItems hf
          split at h
          · cases h
          · cases h
            omega

/-- The tag and the other members of a tagged record that is already there. -/
def splitTag (key : String) (cases : List (String × Decoder α)) :
    Tagging α → List (String × Json) → Except Mismatch (Tagging α)
  | tagging, [] => .ok tagging
  | tagging, (name, j) :: members =>
    if name == key then
      if tagging.decoder.isSome then .error (.duplicateField key)
      else
        match named (findTagged cases) j with
        | .error mismatch => .error mismatch
        | .ok d => splitTag key cases { tagging with decoder := some d } members
    else splitTag key cases { tagging with members := (name, j) :: tagging.members } members

/-- One of several records: the member with the tag's key names it, or the first item of a list. All
else is kept until the tag is known. -/
def tagged (key : String) (title : String) (cases : List (String × Decoder α)) : Decoder α :=
  let expected := "internally tagged enum " ++ title
  { fromText := fun room ↦
      .value (fun j ↦ .error (wrongType expected j))
        (.nested room fun room ↦ readTaggedList room key cases)
        (.nested room fun room ↦ readTaggedObject room key cases)
    fromValue := fun _ j ↦
      match j with
      | .array [] => .error (.missingField key)
      | .array (tag :: items) =>
        match named (findTagged cases) tag with
        | .error mismatch => .error mismatch
        | .ok d => d.fromValue .buffered (.array items)
      | .object members =>
        match splitTag key cases ⟨none, []⟩ members with
        | .error mismatch => .error mismatch
        | .ok tagging =>
          match tagging.decoder with
          | none => .error (.missingField key)
          | some d => d.fromValue .buffered (.object tagging.members.reverse)
      | j => .error (wrongType expected j) }

end Decoder

/-- Reads a JSON text, of a key that repeats the last value. -/
def parse (text : String) : Except TextError Json := Decoder.any.readText text

end Json

end ToolSchema
