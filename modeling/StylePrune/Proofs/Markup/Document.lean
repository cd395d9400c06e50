import StylePrune.Markup.Profile

/-!
# Documents

A document as a tree of elements, the places in it, and the profiles that know all its names.
-/

namespace StylePrune

inductive Element
  | node (tag : String) (classes : List String) (id : Option String) (children : List Element)

namespace Element

def tag : Element → String
  | node tag _ _ _ => tag

def classes : Element → List String
  | node _ classes _ _ => classes

def id : Element → Option String
  | node _ _ id _ => id

def children : Element → List Element
  | node _ _ _ children => children

/-- The element at a place: each number picks a child, from the root down. -/
def at? (e : Element) : List Nat → Option Element
  | [] => some e
  | i :: place => e.children[i]?.bind fun child => child.at? place

end Element

namespace Profile

def knows (p : Profile) (tag : String) (classes : List String) (id : Option String) : Bool :=
  decide (tag ∈ p.tags) && p.hasAllClasses classes && p.hasAllIds id.toList

mutual

def covers (p : Profile) : Element → Bool
  | .node tag classes id children => p.knows tag classes id && p.coversAll children

def coversAll (p : Profile) : List Element → Bool
  | [] => true
  | e :: rest => p.covers e && p.coversAll rest

end

/-- The first profile has no name that the second has not. -/
structure Within (p q : Profile) : Prop where
  classes : ∀ name ∈ p.classes, name ∈ q.classes
  tags : ∀ name ∈ p.tags, name ∈ q.tags
  ids : ∀ name ∈ p.ids, name ∈ q.ids

theorem within_withCatalog (p : Profile) (catalog : Catalog) :
    p.Within (p.withCatalog catalog) where
  classes _ h := mem_classes_withCatalog.mpr (.inr h)
  tags _ h := mem_tags_withCatalog.mpr (.inr h)
  ids _ h := h

namespace Within

variable {p q : Profile}

theorem knows (h : p.Within q) {tag : String} {classes : List String} {id : Option String}
    (hp : p.knows tag classes id = true) : q.knows tag classes id = true := by
  simp only [Profile.knows, hasAllClasses, hasAllIds, Bool.and_eq_true, decide_eq_true_eq,
    NameSet.containsAll_iff] at hp ⊢
  obtain ⟨⟨htag, hclasses⟩, hid⟩ := hp
  exact ⟨⟨h.tags tag htag, fun x hx => h.classes x (hclasses x hx)⟩,
    fun x hx => h.ids x (hid x hx)⟩

mutual

/-- A larger profile knows the documents that a smaller one knows. -/
theorem covers (h : p.Within q) (doc : Element) (hp : p.covers doc = true) :
    q.covers doc = true := by
  obtain ⟨tag, classes, id, children⟩ := doc
  rw [Profile.covers, Bool.and_eq_true] at hp ⊢
  exact ⟨h.knows hp.1, h.coversAll children hp.2⟩

theorem coversAll (h : p.Within q) (docs : List Element) (hp : p.coversAll docs = true) :
    q.coversAll docs = true := by
  cases docs with
  | nil => rfl
  | cons doc rest =>
      rw [Profile.coversAll, Bool.and_eq_true] at hp ⊢
      exact ⟨h.covers doc hp.1, h.coversAll rest hp.2⟩

end

end Within

theorem covers_of_mem {p : Profile} {es : List Element} (h : p.coversAll es = true)
    {e : Element} (he : e ∈ es) : p.covers e = true := by
  induction es with
  | nil => cases he
  | cons f rest ih =>
      rw [coversAll, Bool.and_eq_true] at h
      rcases List.mem_cons.mp he with rfl | he
      · exact h.1
      · exact ih h.2 he

/-- A profile that knows a document knows the element at every place. -/
theorem knows_of_at? {p : Profile} {doc e : Element} {place : List Nat}
    (h : p.covers doc = true) (he : doc.at? place = some e) :
    p.knows e.tag e.classes e.id = true := by
  induction place generalizing doc with
  | nil =>
      obtain rfl : doc = e := Option.some.inj he
      obtain ⟨tag, classes, id, children⟩ := doc
      rw [covers, Bool.and_eq_true] at h
      exact h.1
  | cons i place ih =>
      obtain ⟨tag, classes, id, children⟩ := doc
      rw [covers, Bool.and_eq_true] at h
      obtain ⟨child, hc, he⟩ := Option.bind_eq_some_iff.mp he
      exact ih (covers_of_mem h.2 (List.mem_of_getElem? hc)) he

end Profile

end StylePrune
