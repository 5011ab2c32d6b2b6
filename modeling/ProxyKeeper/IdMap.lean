/-!
Maps from ids, in the order of the ids' code points. The order is kept by every operation and is
part of the type, so an id stands in a map at most once.
-/

namespace ProxyKeeper

structure IdMap (β : Type) where
  entries : List (String × β)
  sorted : entries.Pairwise fun a b => a.1 < b.1

namespace IdMap

variable {β γ : Type}

def empty : IdMap β := ⟨[], .nil⟩

instance : EmptyCollection (IdMap β) := ⟨empty⟩

instance : Inhabited (IdMap β) := ⟨empty⟩

instance [DecidableEq β] : DecidableEq (IdMap β) := fun a b =>
  decidable_of_iff (a.entries = b.entries) <| by cases a; cases b; simp

def get? (m : IdMap β) (id : String) : Option β := (m.entries.find? (·.1 == id)).map (·.2)

def contains (m : IdMap β) (id : String) : Bool := m.entries.any (·.1 == id)

def keys (m : IdMap β) : List String := m.entries.map (·.1)

def values (m : IdMap β) : List β := m.entries.map (·.2)

def size (m : IdMap β) : Nat := m.entries.length

/-! ## insertion -/

/-- Puts an entry in its place, over one of the same id. -/
def insertEntry (id : String) (b : β) : List (String × β) → List (String × β)
  | [] => [(id, b)]
  | (k, v) :: rest =>
    if id < k then (id, b) :: (k, v) :: rest
    else if k < id then (k, v) :: insertEntry id b rest
    else (id, b) :: rest

theorem mem_insertEntry {id : String} {b : β} {x : String × β} {l : List (String × β)}
    (h : x ∈ insertEntry id b l) : x = (id, b) ∨ x ∈ l := by
  induction l with
  | nil => simpa [insertEntry] using h
  | cons head rest ih =>
    obtain ⟨k, v⟩ := head
    rw [insertEntry] at h
    split at h
    · simpa using h
    · split at h
      · rcases List.mem_cons.1 h with rfl | h
        · simp
        · rcases ih h with h | h <;> simp [h]
      · rcases List.mem_cons.1 h with rfl | h <;> simp_all

theorem sorted_insertEntry (id : String) (b : β) {l : List (String × β)}
    (h : l.Pairwise fun a b => a.1 < b.1) :
    (insertEntry id b l).Pairwise fun a b => a.1 < b.1 := by
  induction l with
  | nil => simp [insertEntry]
  | cons head rest ih =>
    obtain ⟨k, v⟩ := head
    obtain ⟨hk, hrest⟩ := List.pairwise_cons.1 h
    rw [insertEntry]
    split
    · rename_i hlt
      refine List.pairwise_cons.2 ⟨fun x hx => ?_, h⟩
      rcases List.mem_cons.1 hx with rfl | hx
      · exact hlt
      · exact String.lt_trans hlt (hk x hx)
    · split
      · rename_i hlt
        refine List.pairwise_cons.2 ⟨fun x hx => ?_, ih hrest⟩
        rcases mem_insertEntry hx with rfl | hx
        · exact hlt
        · exact hk x hx
      · rename_i h1 h2
        have e : id = k := String.le_antisymm (String.not_lt.1 h2) (String.not_lt.1 h1)
        subst e
        exact List.pairwise_cons.2 ⟨hk, hrest⟩

def insert (m : IdMap β) (id : String) (b : β) : IdMap β :=
  ⟨insertEntry id b m.entries, sorted_insertEntry id b m.sorted⟩

/-- The map of the pairs; of two pairs of one id the later stays. -/
def ofList (pairs : List (String × β)) : IdMap β :=
  pairs.foldl (fun m (id, b) => m.insert id b) empty

/-! ## removal and change -/

/-- The entries whose id `p` holds of. -/
def filterIds (m : IdMap β) (p : String → Bool) : IdMap β :=
  ⟨m.entries.filter (p ·.1), m.sorted.filter _⟩

def erase (m : IdMap β) (id : String) : IdMap β := m.filterIds (· != id)

/-- Every value changed, under the same ids. -/
def map (f : β → γ) (m : IdMap β) : IdMap γ :=
  ⟨m.entries.map fun (id, b) => (id, f b), by
    simpa [List.pairwise_map] using m.sorted⟩

end IdMap

end ProxyKeeper
