import ToolSchema.Number.Basic

/-!
# JSON values

A JSON value with its object members in written order. A text may spell the same key more than once;
`Json.merged` is the value that such a text stands for: the first occurrence of a key fixes its place
and the last one its value.
-/

namespace ToolSchema

/-- A JSON value. Members of an object keep their order, and keys may repeat. -/
inductive Json where
  | null
  | bool (value : Bool)
  | number (value : Number)
  | string (value : String)
  | array (items : List Json)
  | object (members : List (String × Json))
  deriving BEq, Repr, Inhabited

/-- Puts a value under a key: in the place that the key has, else at the end. -/
def insertMember {α : Type} (members : List (String × α)) (key : String) (value : α) :
    List (String × α) :=
  match members with
  | [] => [(key, value)]
  | m :: rest => if m.1 = key then (key, value) :: rest else m :: insertMember rest key value

/-- The members with every key once: in the place of its first occurrence, with its last value. -/
def mergeMembers {α : Type} (members : List (String × α)) : List (String × α) :=
  members.foldl (fun merged m ↦ insertMember merged m.1 m.2) []

namespace Json

mutual

/-- The value with every key of an object once. -/
def merged : Json → Json
  | array items => array (mergedItems items)
  | object members => object (mergeMembers (mergedValues members))
  | j => j

/-- `merged` on every item. -/
def mergedItems : List Json → List Json
  | [] => []
  | j :: rest => merged j :: mergedItems rest

/-- `merged` on the value of every member. -/
def mergedValues : List (String × Json) → List (String × Json)
  | [] => []
  | (key, j) :: rest => (key, merged j) :: mergedValues rest

end

/-- An unsigned word as a JSON number. -/
def ofUInt64 (n : UInt64) : Json := number (.integer (.ofUInt64 n))

/-- An unsigned half word as a JSON number. -/
def ofUInt32 (n : UInt32) : Json := number (.integer (.ofUInt32 n))

/-- Texts as an array. -/
def ofStrings (texts : List String) : Json := array (texts.map string)

/-- The value of the first member with this key. -/
def member? (key : String) : Json → Option Json
  | object members => members.lookup key
  | _ => none

end Json

/-- A key that is not there goes to the end. -/
theorem insertMember_of_notMem {α : Type} {members : List (String × α)} {key : String} (value : α)
    (h : key ∉ members.map Prod.fst) : insertMember members key value = members ++ [(key, value)] := by
  induction members with
  | nil => rfl
  | cons m rest ih =>
    simp only [List.map_cons, List.mem_cons, not_or] at h
    simp [insertMember, Ne.symm h.1, ih h.2]

/-- A key that is there keeps its place, and a new one goes to the end. -/
theorem keys_insertMember {α : Type} (members : List (String × α)) (key : String) (value : α) :
    (insertMember members key value).map Prod.fst =
      if key ∈ members.map Prod.fst then members.map Prod.fst
      else members.map Prod.fst ++ [key] := by
  induction members with
  | nil => rfl
  | cons m rest ih =>
    by_cases hm : m.1 = key
    · simp [insertMember, hm]
    · rw [insertMember, if_neg hm, List.map_cons, ih]
      by_cases hrest : key ∈ rest.map Prod.fst
      · rw [if_pos hrest, List.map_cons, if_pos (List.mem_cons_of_mem _ hrest)]
      · rw [if_neg hrest, List.map_cons, if_neg (by simpa [Ne.symm hm] using hrest)]
        rfl

/-- Under the key is the new value, and under every other one what was there. -/
theorem lookup_insertMember {α : Type} (members : List (String × α)) (key : String) (value : α)
    (k : String) :
    (insertMember members key value).lookup k =
      if k = key then some value else members.lookup k := by
  have hcons (name : String) (v : α) (rest : List (String × α)) :
      ((name, v) :: rest).lookup k = if k = name then some v else rest.lookup k := by
    by_cases h : k = name
    · simp [h]
    · simp [List.lookup_cons, h, beq_false_of_ne h]
  induction members with
  | nil => exact hcons key value []
  | cons m rest ih =>
    rw [insertMember, hcons m.1 m.2 rest]
    by_cases hm : m.1 = key
    · rw [if_pos hm, hcons, hm]
      split <;> rfl
    · rw [if_neg hm, hcons m.1 m.2, ih]
      by_cases hk : k = m.1
      · rw [if_pos hk, if_neg (hk ▸ hm), if_pos hk]
      · rw [if_neg hk, if_neg hk]

end ToolSchema
