/-!
# Association lists

Small tables, kept as lists of keys with values in the order in which the keys were first added.
Core's `List.lookup` reads them.
-/

namespace CondCss
namespace Assoc

variable {α β : Type} [BEq α]

/-- Sets the value of a key: in place if the key is there, at the end otherwise. -/
def insert (key : α) (value : β) : List (α × β) → List (α × β)
  | [] => [(key, value)]
  | (k, v) :: rest => if k == key then (k, value) :: rest else (k, v) :: insert key value rest

/-- Whether a key has a value. -/
def contains (key : α) (table : List (α × β)) : Bool :=
  table.any (·.1 == key)

/-- Removes a key. -/
def erase (key : α) (table : List (α × β)) : List (α × β) :=
  table.filter (!·.1 == key)

/-- Sets several keys, one after the other. -/
def insertAll (entries table : List (α × β)) : List (α × β) :=
  entries.foldl (fun table e => insert e.1 e.2 table) table

variable [LawfulBEq α]

theorem lookup_insert (key key' : α) (value : β) (table : List (α × β)) :
    (insert key value table).lookup key' = if key' == key then some value else table.lookup key' := by
  induction table with
  | nil => cases h : key' == key <;> simp [insert, List.lookup_cons, h]
  | cons e table ih =>
    obtain ⟨k, v⟩ := e
    by_cases same : k = key
    · subst same
      cases found : key' == k <;> simp [insert, List.lookup_cons, found]
    · cases found : key' == k with
      | true =>
        obtain rfl := beq_iff_eq.1 found
        simp [insert, same]
      | false => simp [insert, same, List.lookup_cons, found, ih]

/-- Setting a key to the value it has changes nothing. -/
theorem insert_of_lookup {key : α} {value : β} {table : List (α × β)}
    (found : table.lookup key = some value) : insert key value table = table := by
  induction table with
  | nil => cases found
  | cons e table ih =>
    obtain ⟨k, v⟩ := e
    by_cases same : k = key
    · subst same
      rw [List.lookup_cons_self] at found
      obtain rfl := Option.some.inj found
      simp [insert]
    · rw [List.lookup_cons, beq_false_of_ne (Ne.symm same)] at found
      rw [insert, if_neg (by simpa using same), ih found]

/-- In a table with one value for all keys, each of them has it. -/
theorem lookup_map_const {γ : Type} (key : γ → α) (value : β) {l : List γ} {a : γ} (member : a ∈ l) :
    (l.map fun a => (key a, value)).lookup (key a) = some value := by
  induction l with
  | nil => cases member
  | cons first l ih =>
    rw [List.map_cons, List.lookup_cons]
    split
    · rfl
    · rename_i other
      rcases List.mem_cons.1 member with rfl | member
      · simp at other
      · exact ih member

end Assoc
end CondCss
