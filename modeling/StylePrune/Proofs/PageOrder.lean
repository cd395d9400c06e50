import StylePrune.CommandLine.Run
import StylePrune.Proofs.Markup.Building
import StylePrune.Proofs.MentionedNames

/-!
# The order of pages

The pages of a command line can be named in any order and more than once: what is known of them
is a set of names, and a pruning asks a profile for nothing but its names.  A page that cannot be
read ends the run in the same way wherever it is named.
-/

namespace StylePrune

namespace Profile

theorem AgreesOn.of_sameAs {p q : Profile} (h : p.sameAs q = true) (mention : Mention) :
    p.AgreesOn q mention := by
  obtain ⟨hpq, hqp⟩ := sameAs_iff.mp h
  exact ⟨fun x _ => ⟨hpq.classes x, hqp.classes x⟩, fun x _ => ⟨hpq.ids x, hqp.ids x⟩,
    fun x _ => ⟨hpq.tags x, hqp.tags x⟩⟩

end Profile

/-- A pruning sees a profile as a set of names. -/
theorem Sheet.prune_of_sameAs {p q : Profile} (h : p.sameAs q = true) (engine : Allow.Engine)
    (s : Sheet) (settings : Settings) (entries : List Allow.Entry) :
    s.prune engine settings ⟨p, entries⟩ = s.prune engine settings ⟨q, entries⟩ :=
  prune_congr fun _ _ _ _ => .of_sameAs h _

namespace CommandLine

/-! ## Pages as steps -/

def pageStep (content : String) : Profile.Step :=
  .merge (Html.usedMarkup content)

namespace Directory

variable {d : Directory} {pages pages' : List String}

/-- The pages are read first to last, and then a profile is built from what they contain. -/
theorem profileOf_eq (d : Directory) (pages : List String) :
    d.profileOf pages =
      (pages.mapM (d.readOrFail "HTML")).map fun contents =>
        Profile.empty.build (contents.map pageStep) := by
  rw [profileOf]
  generalize Profile.empty = p
  induction pages generalizing p with
  | nil => rfl
  | cons page rest ih =>
      rw [List.foldlM_cons, List.mapM_cons]
      cases hread : d.readOrFail "HTML" page with
      | error e => rfl
      | ok content =>
          -- The rest of the pages is added to the profile that has this page already.
          refine (ih (p.apply (pageStep content))).trans ?_
          cases rest.mapM (d.readOrFail "HTML") <;> rfl

/-- The same pages give the same set of names, or cannot be read in any order. -/
theorem profileOf_of_same_pages (d : Directory) (h : ∀ page, page ∈ pages ↔ page ∈ pages') :
    (∃ p p', d.profileOf pages = .ok p ∧ d.profileOf pages' = .ok p' ∧ p.sameAs p' = true) ∨
      ∃ e e', d.profileOf pages = .error e ∧ d.profileOf pages' = .error e' := by
  have hfails : (∃ e, pages.mapM (d.readOrFail "HTML") = .error e) ↔
      ∃ e, pages'.mapM (d.readOrFail "HTML") = .error e := by
    simp only [Allow.mapM_eq_error_iff, h]
  rw [profileOf_eq, profileOf_eq]
  cases hread : pages.mapM (d.readOrFail "HTML") with
  | error e =>
      obtain ⟨e', hread'⟩ := hfails.mp ⟨e, hread⟩
      rw [hread']
      exact .inr ⟨e, e', rfl, rfl⟩
  | ok contents =>
      cases hread' : pages'.mapM (d.readOrFail "HTML") with
      | error e' =>
          obtain ⟨e, he⟩ := hfails.mpr ⟨e', hread'⟩
          rw [hread] at he
          cases he
      | ok contents' =>
          refine .inl ⟨_, _, rfl, rfl, Profile.sameAs_build (fun step => ?_) _⟩
          simp only [List.mem_map, Allow.mem_iff_of_mapM_eq_ok hread,
            Allow.mem_iff_of_mapM_eq_ok hread', h]

end Directory

/-! ## Runs -/

namespace Run

/-- The two runs end alike; only what is said about an error may differ. -/
structure Alike (r r' : Run) : Prop where
  exit : r.exit = r'.exit
  output : r.output = r'.output
  files : r.files = r'.files

theorem Alike.refl (r : Run) : r.Alike r :=
  ⟨rfl, rfl, rfl⟩

end Run

namespace Arguments

variable {engine : Allow.Engine} {args : Arguments} {pages : List String}

/-- The result is the same, or there is none, whatever the order of the pages. -/
theorem result_of_same_pages (engine : Allow.Engine) (d : Directory)
    (h : ∀ page, page ∈ args.pages ↔ page ∈ pages) :
    args.result engine d = { args with pages }.result engine d ∨
      ∃ e e',
        args.result engine d = .error e ∧ { args with pages }.result engine d = .error e' := by
  rcases d.profileOf_of_same_pages h with ⟨p, p', hp, hp', hsame⟩ | ⟨e, e', he, he'⟩
  · left
    rw [result, result, hp, hp']
    simp only [bind, Except.bind]
    cases d.allowListOf args.allow with
    | error e => rfl
    | ok allow =>
        cases d.readOrFail "CSS" args.css with
        | error e => rfl
        | ok content =>
            have hprune := Sheet.prune_of_sameAs hsame engine
              (Sheet.new args.id args.url content) args.settings allow
            exact congrArg (fun r => Except.ok r.1) hprune
  · right
    refine ⟨e, e', ?_, ?_⟩
    · rw [result, he]
      rfl
    · rw [result, he']
      rfl

theorem run_of_same_pages (d : Directory) (h : ∀ page, page ∈ args.pages ↔ page ∈ pages) :
    (args.run engine d).Alike ({ args with pages }.run engine d) := by
  have hdeliver : { args with pages }.deliver d = args.deliver d := rfl
  rw [run, run, hdeliver]
  rcases result_of_same_pages engine d h with hresult | ⟨e, e', he, he'⟩
  · rw [← hresult]
    exact .refl _
  · rw [he, he']
    exact ⟨rfl, rfl, rfl⟩

end Arguments

/-! ## Command lines -/

def Given.isPage : Given → Bool
  | .setting .html _ => true
  | _ => false

/-- The arguments are the same up to the order and the repetition of those that name pages. -/
structure SamePages (given given' : List Given) : Prop where
  pages : ∀ page, .setting .html page ∈ given ↔ .setting .html page ∈ given'
  others : given.filter (!·.isPage) = given'.filter (!·.isPage)

namespace Arguments

variable {given given' : List Given}

theorem mem_valuesOf {key : Setting} {value : String} :
    value ∈ valuesOf key given ↔ .setting key value ∈ given := by
  simp only [valuesOf, List.mem_filterMap]
  constructor
  · rintro ⟨g, hg, hvalue⟩
    cases g <;> simp_all
  · intro h
    exact ⟨_, h, if_pos rfl⟩

/-- The values of the other options stand in the other arguments. -/
theorem valuesOf_filter {key : Setting} (h : key ≠ .html) (given : List Given) :
    valuesOf key (given.filter (!·.isPage)) = valuesOf key given := by
  rw [valuesOf, valuesOf, List.filterMap_filter]
  refine List.filterMap_congr fun g _ => ?_
  cases g with
  | setting k value => cases k <;> simp [Given.isPage, Ne.symm h]
  | _ => rfl

theorem operandsOf_filter (given : List Given) :
    operandsOf (given.filter (!·.isPage)) = operandsOf given := by
  rw [operandsOf, operandsOf, List.filterMap_filter]
  refine List.filterMap_congr fun g _ => ?_
  cases g with
  | setting k value => cases k <;> rfl
  | _ => rfl

end Arguments

namespace SamePages

open Arguments

variable {given given' : List Given} (h : SamePages given given')
include h

theorem valuesOf_eq {key : Setting} (hkey : key ≠ .html) :
    valuesOf key given' = valuesOf key given := by
  rw [← valuesOf_filter hkey given', ← h.others, valuesOf_filter hkey]

theorem operandsOf_eq : operandsOf given' = operandsOf given := by
  rw [← operandsOf_filter given', ← h.others, operandsOf_filter]

/-- Another argument is there as often. -/
theorem count_eq {g : Given} (hg : g.isPage = false) : given'.count g = given.count g := by
  have hother : (!g.isPage) = true := by simp [hg]
  have hcount (xs : List Given) : (xs.filter (!·.isPage)).count g = xs.count g :=
    List.count_filter hother
  rw [← hcount, ← h.others, hcount]

theorem contains_eq {g : Given} (hg : g.isPage = false) :
    given'.contains g = given.contains g := by
  rw [Bool.eq_iff_iff, List.contains_iff_mem, List.contains_iff_mem, ← List.count_pos_iff,
    ← List.count_pos_iff, h.count_eq hg]

theorem mem_pages_iff (page : String) :
    page ∈ valuesOf .html given ↔ page ∈ valuesOf .html given' := by
  rw [mem_valuesOf, mem_valuesOf, h.pages]

theorem isEmpty_pages_eq :
    (valuesOf .html given').isEmpty = (valuesOf .html given).isEmpty := by
  rw [Bool.eq_iff_iff, List.isEmpty_iff, List.isEmpty_iff, List.eq_nil_iff_forall_not_mem,
    List.eq_nil_iff_forall_not_mem]
  simp only [h.mem_pages_iff]

theorem mem_pathsOf_iff (path : String) : path ∈ pathsOf given' ↔ path ∈ pathsOf given := by
  have hallow : valuesOf .allow given' = valuesOf .allow given := h.valuesOf_eq (by decide)
  have houtput : valuesOf .output given' = valuesOf .output given := h.valuesOf_eq (by decide)
  simp only [pathsOf, List.mem_append, h.operandsOf_eq, hallow, houtput, h.mem_pages_iff]

/-- Pages may be there more than once, in any order. -/
theorem isSound_eq : isSound given' = isSound given := by
  have hpaths : (pathsOf given').all (· != "") = (pathsOf given).all (· != "") := by
    rw [Bool.eq_iff_iff, List.all_eq_true, List.all_eq_true]
    simp only [h.mem_pathsOf_iff]
  have hurl : valuesOf .url given' = valuesOf .url given := h.valuesOf_eq (by decide)
  have hid : valuesOf .id given' = valuesOf .id given := h.valuesOf_eq (by decide)
  have hallow : valuesOf .allow given' = valuesOf .allow given := h.valuesOf_eq (by decide)
  have houtput : valuesOf .output given' = valuesOf .output given := h.valuesOf_eq (by decide)
  have hswitch (key : Switch) : given'.count (.switch key) = given.count (.switch key) :=
    h.count_eq rfl
  simp only [isSound, h.operandsOf_eq, hpaths, List.all_cons, List.all_nil, hurl, hid, hallow,
    houtput, hswitch]

/-- The same arguments but for their pages make up the same but for the pages. -/
theorem ofGiven?_eq :
    Arguments.ofGiven? given' = (Arguments.ofGiven? given).map fun args =>
      { args with pages := valuesOf .html given' } := by
  have hurl : valuesOf .url given' = valuesOf .url given := h.valuesOf_eq (by decide)
  have hid : valuesOf .id given' = valuesOf .id given := h.valuesOf_eq (by decide)
  have hallow : valuesOf .allow given' = valuesOf .allow given := h.valuesOf_eq (by decide)
  have houtput : valuesOf .output given' = valuesOf .output given := h.valuesOf_eq (by decide)
  have hswitch (key : Switch) : given'.contains (.switch key) = given.contains (.switch key) :=
    h.contains_eq rfl
  unfold Arguments.ofGiven?
  rw [h.operandsOf_eq]
  cases operandsOf given with
  | nil => rfl
  | cons css more =>
      dsimp only
      rw [h.isEmpty_pages_eq, h.isSound_eq]
      split
      · rfl
      · simp only [hurl, hid, hallow, houtput, hswitch, Option.map_some]

end SamePages

theorem SamePages.refl (given : List Given) : SamePages given given :=
  ⟨fun _ => Iff.rfl, rfl⟩

theorem Arguments.pages_of_ofGiven?_eq_some {given : List Given} {args : Arguments}
    (h : ofGiven? given = some args) : args.pages = valuesOf .html given := by
  have hsame := (SamePages.refl given).ofGiven?_eq
  rw [h, Option.map_some, Option.some.injEq] at hsame
  rw [hsame]

/-- A command line is read alike, up to the pages of a pruning. -/
theorem SamePages.request_cases {given given' : List Given} (h : SamePages given given') :
    Request.ofGiven? given' = Request.ofGiven? given ∨
      ∃ args, Request.ofGiven? given = some (.prune args) ∧
        Request.ofGiven? given' =
          some (.prune { args with pages := Arguments.valuesOf .html given' }) ∧
        ∀ page, page ∈ args.pages ↔ page ∈ Arguments.valuesOf .html given' := by
  unfold Request.ofGiven?
  rw [h.contains_eq (g := .help) rfl, h.isSound_eq, h.ofGiven?_eq]
  split
  · exact .inl rfl
  · cases hargs : Arguments.ofGiven? given with
    | none => exact .inl rfl
    | some args =>
        refine .inr ⟨args, rfl, rfl, fun page => ?_⟩
        rw [Arguments.pages_of_ofGiven?_eq_some hargs, h.mem_pages_iff]

/--
Command lines that differ in the order and the repetition of their pages end alike, also where a
page cannot be read.  Merging is commutative, associative and idempotent, the names of a catalog
can be added before or after it and are added once, profiles that are built in the same steps are
the same sets, and a pruning is the same for profiles that are the same sets.
-/
theorem run_alike_of_samePages (engine : Allow.Engine) :
    (∀ (d : Directory) (words words' : List String) (given given' : List Given),
      readAll none words = some given → readAll none words' = some given' →
      SamePages given given' → (run engine words d).Alike (run engine words' d)) ∧
    (∀ p q r : Profile,
      (p.merge q).sameAs (q.merge p) = true ∧
      ((p.merge q).merge r).sameAs (p.merge (q.merge r)) = true ∧
      (p.merge p).sameAs p = true) ∧
    (∀ (p q : Profile) (catalog : Catalog),
      ((p.merge q).withCatalog catalog).sameAs
        ((p.withCatalog catalog).merge (q.withCatalog catalog)) = true ∧
      ((p.withCatalog catalog).withCatalog catalog).sameAs (p.withCatalog catalog) = true) ∧
    (∀ (p : Profile) (steps steps' : List Profile.Step),
      (∀ step, step ∈ steps ↔ step ∈ steps') → (p.build steps).sameAs (p.build steps') = true) ∧
    (∀ (s : Sheet) (settings : Settings) (entries : List Allow.Entry) (p q : Profile),
      p.sameAs q = true →
        s.prune engine settings ⟨p, entries⟩ = s.prune engine settings ⟨q, entries⟩) := by
  refine ⟨?_, ?_, ?_, ?_, ?_⟩
  · intro d words words' given given' hgiven hgiven' hsame
    rw [run, run, Request.ofList?, Request.ofList?, hgiven, hgiven', Option.bind_some,
      Option.bind_some]
    rcases hsame.request_cases with hrequest | ⟨args, hargs, hargs', hpages⟩
    · rw [hrequest]
      exact .refl _
    · rw [hargs, hargs']
      exact Arguments.run_of_same_pages d hpages
  · intro p q r
    exact ⟨p.sameAs_merge_comm q, p.sameAs_merge_assoc q r, p.sameAs_merge_self⟩
  · intro p q catalog
    exact ⟨p.sameAs_withCatalog_merge q catalog, p.sameAs_withCatalog_withCatalog catalog⟩
  · intro p steps steps' h
    exact Profile.sameAs_build h p
  · intro s settings entries p q h
    exact Sheet.prune_of_sameAs h engine s settings entries

/-- Pages in another order and named twice, and a profile that is built in another order. -/
theorem run_alike_of_samePages_twice :
    let words := ["--html", "a.html", "site.css", "--html", "b.html"]
    let words' := ["site.css", "--html=b.html", "--html", "a.html", "--html", "b.html"]
    let given : List Given :=
      [.setting .html "a.html", .operand "site.css", .setting .html "b.html"]
    let given' : List Given :=
      [.operand "site.css", .setting .html "b.html", .setting .html "a.html",
        .setting .html "b.html"]
    let table := Profile.empty.withTags ["td", "table"]
    let steps : List Profile.Step := [.insertClass "menu", .merge table]
    let steps' : List Profile.Step := [.merge table, .insertClass "menu", .merge table]
    let sheet : Sheet := { Sheet.new "page" "" "" with tree := some Inclusion.menuRules }
    (readAll none words = some given ∧ readAll none words' = some given' ∧
      SamePages given given' ∧ ∀ d, (run .unlimited words d).Alike (run .unlimited words' d)) ∧
    (∀ step, step ∈ steps ↔ step ∈ steps') ∧
    (Profile.empty.build steps).sameAs (Profile.empty.build steps') = true ∧
    sheet.prune .unlimited ⟨.minimal, false⟩ ⟨Profile.empty.build steps, []⟩ =
      sheet.prune .unlimited ⟨.minimal, false⟩ ⟨Profile.empty.build steps', []⟩ := by
  intro words words' given given' table steps steps' sheet
  have hwords : readAll none words = some given := by decide +kernel
  have hwords' : readAll none words' = some given' := by decide +kernel
  have hsame : SamePages given given' := by
    refine ⟨fun page => ?_, by decide⟩
    simp only [given, given', List.mem_cons, reduceCtorEq, List.not_mem_nil, or_false, false_or]
    grind
  have hsteps : ∀ step, step ∈ steps ↔ step ∈ steps' := by
    intro step
    simp only [steps, steps', List.mem_cons, List.not_mem_nil, or_false]
    grind
  obtain ⟨hrun, -, -, hbuild, hprune⟩ := run_alike_of_samePages .unlimited
  have hprofiles := hbuild Profile.empty steps steps' hsteps
  exact ⟨⟨hwords, hwords', hsame, fun d => hrun d _ _ _ _ hwords hwords' hsame⟩, hsteps,
    hprofiles, hprune sheet _ _ _ _ hprofiles⟩

end CommandLine

end StylePrune
