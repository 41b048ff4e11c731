
namespace Dispatchers

@[ext]
structure Dictionary (α : Type) where
  entries : List (String × α)
  sorted : (entries.map Prod.fst).Pairwise (· < ·)
deriving DecidableEq

namespace Dictionary

variable {α : Type}

def empty : Dictionary α :=
  ⟨[], .nil⟩

def get? (d : Dictionary α) (key : String) : Option α :=
  d.entries.lookup key

def contains (d : Dictionary α) (key : String) : Bool :=
  d.entries.any (·.1 = key)

def keys (d : Dictionary α) : List String :=
  d.entries.map Prod.fst

def values (d : Dictionary α) : List α :=
  d.entries.map Prod.snd

def insertEntry (key : String) (value : α) : List (String × α) → List (String × α)
  | [] => [(key, value)]
  | (k, v) :: rest =>
    if key < k then (key, value) :: (k, v) :: rest
    else if key = k then (key, value) :: rest
    else (k, v) :: insertEntry key value rest

theorem mem_keys_insertEntry (key other : String) (value : α) (entries : List (String × α)) :
    other ∈ (insertEntry key value entries).map Prod.fst ↔
      other = key ∨ other ∈ entries.map Prod.fst := by
  induction entries with
  | nil => simp [insertEntry]
  | cons entry rest ih =>
    unfold insertEntry
    split
    · simp
    · split
      · rename_i same
        simp [same]
      · rw [List.map_cons, List.mem_cons, ih, List.map_cons, List.mem_cons]
        exact or_left_comm

theorem insertEntry_sorted (key : String) (value : α) {entries : List (String × α)}
    (sorted : (entries.map Prod.fst).Pairwise (· < ·)) :
    ((insertEntry key value entries).map Prod.fst).Pairwise (· < ·) := by
  induction entries with
  | nil => exact List.pairwise_singleton _ key
  | cons entry rest ih =>
    obtain ⟨k, v⟩ := entry
    obtain ⟨below, ordered⟩ := List.pairwise_cons.mp sorted
    unfold insertEntry
    split
    · rename_i before
      refine List.pairwise_cons.mpr ⟨?_, sorted⟩
      intro other member
      rcases List.mem_cons.mp member with rfl | member
      · exact before
      · exact String.lt_trans before (below other member)
    · rename_i notBefore
      split
      · rename_i same
        subst same
        exact sorted
      · rename_i apart
        refine List.pairwise_cons.mpr ⟨?_, ih ordered⟩
        intro other member
        rcases (mem_keys_insertEntry key other value rest).mp member with rfl | member
        · exact Std.lt_of_le_of_ne (String.not_lt.mp notBefore) (Ne.symm apart)
        · exact below other member

def insert (d : Dictionary α) (key : String) (value : α) : Dictionary α :=
  ⟨insertEntry key value d.entries, insertEntry_sorted key value d.sorted⟩

def alter (d : Dictionary α) (key : String) (f : Option α → α) : Dictionary α :=
  d.insert key (f (d.get? key))

/-- Later entries replace earlier ones with the same key. -/
def ofList (entries : List (String × α)) : Dictionary α :=
  entries.foldl (fun d (key, value) => d.insert key value) empty

end Dictionary

end Dispatchers
