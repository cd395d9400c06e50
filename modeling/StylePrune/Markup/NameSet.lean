/-!
# Sets of names

Finite sets of strings, kept without repetition.
-/

namespace StylePrune

structure NameSet where
  names : List String
  nodup : names.Nodup

namespace NameSet

def empty : NameSet :=
  ⟨[], List.nodup_nil⟩

instance : Inhabited NameSet :=
  ⟨empty⟩

instance : Membership String NameSet :=
  ⟨fun s name => name ∈ s.names⟩

theorem mem_def {s : NameSet} {name : String} : name ∈ s ↔ name ∈ s.names :=
  Iff.rfl

instance (name : String) (s : NameSet) : Decidable (name ∈ s) :=
  inferInstanceAs (Decidable (name ∈ s.names))

@[simp] theorem not_mem_empty (name : String) : name ∉ empty := by
  simp [mem_def, empty]

def insert (s : NameSet) (name : String) : NameSet :=
  if h : name ∈ s.names then s
  else ⟨name :: s.names, List.nodup_cons.mpr ⟨h, s.nodup⟩⟩

@[simp] theorem mem_insert {s : NameSet} {name x : String} :
    x ∈ s.insert name ↔ x = name ∨ x ∈ s := by
  unfold insert
  split
  · constructor
    · exact Or.inr
    · rintro (rfl | h)
      · assumption
      · exact h
  · simp [mem_def]

def insertMany (s : NameSet) (names : List String) : NameSet :=
  names.foldl insert s

@[simp] theorem mem_insertMany {s : NameSet} {names : List String} {x : String} :
    x ∈ s.insertMany names ↔ x ∈ names ∨ x ∈ s := by
  unfold insertMany
  induction names generalizing s with
  | nil => simp
  | cons name rest ih =>
      simp only [List.foldl_cons, ih, mem_insert, List.mem_cons]
      grind

def ofList (names : List String) : NameSet :=
  empty.insertMany names

@[simp] theorem mem_ofList {names : List String} {x : String} : x ∈ ofList names ↔ x ∈ names := by
  simp [ofList]

def union (s t : NameSet) : NameSet :=
  s.insertMany t.names

@[simp] theorem mem_union {s t : NameSet} {x : String} : x ∈ s.union t ↔ x ∈ t ∨ x ∈ s := by
  simp [union, mem_def (s := t)]

def containsAll (s : NameSet) (names : List String) : Bool :=
  names.all fun name => decide (name ∈ s)

theorem containsAll_iff {s : NameSet} {names : List String} :
    s.containsAll names = true ↔ ∀ name ∈ names, name ∈ s := by
  simp [containsAll]

def isEmpty (s : NameSet) : Bool :=
  s.names.isEmpty

def sameAs (s t : NameSet) : Bool :=
  s.containsAll t.names && t.containsAll s.names

theorem sameAs_iff {s t : NameSet} : s.sameAs t = true ↔ ∀ name, name ∈ s ↔ name ∈ t := by
  simp only [sameAs, Bool.and_eq_true, containsAll_iff, mem_def]
  grind

/-- The names in the order of their code points. -/
def sorted (s : NameSet) : List String :=
  s.names.mergeSort fun a b => decide (a ≤ b)

theorem mem_sorted {s : NameSet} {name : String} : name ∈ s.sorted ↔ name ∈ s := by
  simp [sorted, mem_def]

end NameSet

end StylePrune
