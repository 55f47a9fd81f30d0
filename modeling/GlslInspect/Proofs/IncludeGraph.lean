/-
The include graph of a library.

Where a path means the same file in every context (`Library.Names`), files form a graph: a readable file leads to each
file that one of its directives names (`Library.Leads`). The guard keeps a flattening from going round in this graph, so
it walks along simple paths only, and along each of them anew.
- `Visits.openAlong`: the open files of a visit are a path of the graph that starts at the file that is flattened, and
  no file is on it twice;
- `Visits.exists_of_reaches`: every readable file that a visited one reaches is visited too. A path that comes back to
  an open file can be shortened, to one that leaves this file for good (`leaves_of_reaches`);
- `Visits.exists_circular`: a way that goes round is not walked to its end, and the guard leaves a line where it stops.
Main results, for catalogs: `circular_iff_cycle` (a flattened file shows a circular include exactly when a cycle can be
reached, and shows it at a file that is open there) and `reads_iff_reaches` (exactly the readable files that can be
reached are read).
-/
import Mathlib.Data.List.Chain
import Mathlib.Logic.Relation
import GlslInspect.Include.Catalog
import GlslInspect.Proofs.Visit

namespace GlslInspect

open Relation

/-! ## Paths that shorten -/

section Paths

variable {α : Type} {R : α → α → Prop}

/-- a step that does not lead into some files -/
def Avoids (R : α → α → Prop) (stack : List α) (u v : α) : Prop := R u v ∧ v ∉ stack

/-- a way can be shortened to one that never comes back to where it started -/
theorem leaves_of_reaches {stack : List α} {u v : α} (h : ReflTransGen (Avoids R stack) u v) :
    v = u ∨ ∃ w, R u w ∧ w ∉ u :: stack ∧ ReflTransGen (Avoids R (u :: stack)) w v := by
  induction h with
  | refl => exact Or.inl rfl
  | @tail y z _ hstep ih =>
    by_cases hback : z = u
    · exact Or.inl hback
    · have hfresh : z ∉ u :: stack := List.not_mem_cons_of_ne_of_not_mem hback hstep.2
      refine Or.inr ?_
      rcases ih with rfl | ⟨w, huw, hw, hwy⟩
      · exact ⟨z, hstep.1, hfresh, .refl⟩
      · exact ⟨w, huw, hw, hwy.tail ⟨hstep.1, hfresh⟩⟩

/-- a way from here ends in a cycle -/
def GoesRound (R : α → α → Prop) (u : α) : Prop := ∃ v, ReflTransGen R u v ∧ TransGen R v v

/-- a way that ends in a cycle never ends -/
theorem GoesRound.next {u : α} (h : GoesRound R u) : ∃ w, R u w ∧ GoesRound R w := by
  obtain ⟨v, huv, hcycle⟩ := h
  rcases huv.cases_head with rfl | ⟨w, huw, hwv⟩
  · obtain ⟨w, huw, hwu⟩ := TransGen.head'_iff.1 hcycle
    exact ⟨w, huw, u, hwu, hcycle⟩
  · exact ⟨w, huw, v, hwv, hcycle⟩

end Paths

/-! ## The graph -/

namespace Library

variable {ι κ : Type}

/-- what a path means does not depend on the context: it is the name of one file, or of none -/
def Names (library : Library ι κ) (name? : Text → Option ι) : Prop :=
  ∀ context path, name? path = (library.resolve context path).toOption.map Resolved.identity

/-- a readable file has a directive that names another -/
def Leads (library : Library ι κ) (name? : Text → Option ι) (u v : ι) : Prop :=
  ∃ text, library.read u = .ok text ∧ ∃ piece ∈ Text.pieces text, ∃ path,
    includePath? piece = some path ∧ name? path = some v

/-- the files that are open inside some includes: each is named by the path of its include, the outermost by `root`,
each leads to the next one inside it, and none is open twice -/
structure OpenAlong (library : Library ι κ) (name? : Text → Option ι) (root : Text) (around : List Text)
    (stack : List ι) : Prop where
  named : stack.map some = (around ++ [root]).map name?
  chain : stack.IsChain fun inner outer => library.Leads name? outer inner
  nodup : stack.Nodup

variable {library : Library ι κ} {name? : Text → Option ι}

theorem Names.of_resolve (hnames : library.Names name?) {context : κ} {path : Text} {file : Resolved ι κ}
    (h : library.resolve context path = .ok file) : name? path = some file.identity := by
  rw [hnames context path, h]
  rfl

theorem Names.exists_resolve (hnames : library.Names name?) (context : κ) {path : Text} {v : ι}
    (h : name? path = some v) : ∃ file, library.resolve context path = .ok file ∧ file.identity = v := by
  rw [hnames context path] at h
  cases hresolve : library.resolve context path with
  | error reason => simp [hresolve, Except.toOption] at h
  | ok file => exact ⟨file, rfl, by simpa [hresolve, Except.toOption] using h⟩

theorem OpenAlong.chain_cons {root : Text} {around : List Text} {stack : List ι} {u v : ι}
    (h : library.OpenAlong name? root around stack) (hhead : u ∈ stack.head?) (hleads : library.Leads name? u v) :
    (v :: stack).IsChain fun inner outer => library.Leads name? outer inner := by
  refine List.isChain_cons.2 ⟨fun w hw => ?_, h.chain⟩
  rw [Option.mem_unique hw hhead]
  exact hleads

/-- a file on a path of the graph can be reached from all that come before it -/
theorem pairwise_transGen {stack : List ι}
    (h : stack.IsChain fun inner outer => library.Leads name? outer inner) :
    stack.Pairwise fun inner outer => TransGen (library.Leads name?) outer inner := by
  have htrans : IsTrans ι fun inner outer => TransGen (library.Leads name?) outer inner :=
    ⟨fun _ _ _ hab hbc => hbc.trans hab⟩
  exact List.isChain_iff_pairwise.1 (h.imp fun _ _ hleads => TransGen.single hleads)

theorem OpenAlong.reaches {root : Text} {around : List Text} {stack : List ι} {u : ι}
    (h : library.OpenAlong name? root around stack) (hu : u ∈ stack) :
    ∃ r, name? root = some r ∧ ReflTransGen (library.Leads name?) r u := by
  have hnamed := h.named
  rw [List.map_append] at hnamed
  obtain ⟨inner, last, rfl, -, hlast⟩ := List.map_eq_append_iff.1 hnamed
  obtain ⟨r, rfl, hr⟩ := List.map_eq_singleton_iff.1 hlast
  refine ⟨r, hr.symm, ?_⟩
  rcases List.mem_append.1 hu with hu | hu
  · exact ((List.pairwise_append.1 (pairwise_transGen h.chain)).2.2 u hu r (List.mem_singleton_self r)).to_reflTransGen
  · rw [List.mem_singleton.1 hu]

theorem exists_read_of_reaches {stack : List ι} {u v : ι} {text : Text}
    (h : ReflTransGen (Avoids (library.Leads name?) stack) u v) (hread : library.read v = .ok text) :
    ∃ contents, library.read u = .ok contents := by
  rcases h.cases_head with rfl | ⟨_, ⟨⟨contents, hcontents, -⟩, -⟩, -⟩
  · exact ⟨text, hread⟩
  · exact ⟨contents, hcontents⟩

variable [DecidableEq ι] {ask : Request κ} {visit : Visit ι κ} {limit : Option ℕ}

/-- without a limit, a readable file is opened where it is not open -/
theorem enter_of_fresh {stack : List ι} {context : κ} {path : Text} {file : Resolved ι κ} {text : Text}
    (hresolve : library.resolve context path = .ok file) (hread : library.read file.identity = .ok text)
    (hfresh : file.identity ∉ stack) :
    library.enter none stack ⟨path, context⟩ = .ok { file with text := text } := by
  simp only [enter, hresolve, if_neg hfresh, pastLimit, hread]

theorem enter_of_open {stack : List ι} {context : κ} {path : Text} {file : Resolved ι κ}
    (hresolve : library.resolve context path = .ok file) (hopen : file.identity ∈ stack) :
    library.enter limit stack ⟨path, context⟩ = .error (.circular file) := by
  simp only [enter, hresolve, if_pos hopen]

/-! ## Visits are paths of the graph -/

theorem Visits.leads_iff (h : library.Visits limit ask visit) {u v : ι} (hhead : u ∈ visit.stack.head?) :
    library.Leads name? u v ↔ ∃ path, visit.Asks path ∧ name? path = some v := by
  obtain ⟨w, rest, hstack, hread⟩ := h.exists_head
  obtain rfl : w = u := by simpa [hstack] using hhead
  constructor
  · rintro ⟨text, htext, piece, hpiece, path, hpath, hname⟩
    rw [hread] at htext
    cases htext
    exact ⟨path, ⟨piece, hpiece, hpath⟩, hname⟩
  · rintro ⟨path, ⟨piece, hpiece, hpath⟩, hname⟩
    exact ⟨visit.text, hread, piece, hpiece, path, hpath, hname⟩

theorem Visits.openAlong (hnames : library.Names name?) (h : library.Visits limit ask visit) :
    library.OpenAlong name? ask.path visit.around visit.stack := by
  induction h with
  | first hentered =>
    have hname := hnames.of_resolve (opens_of_enter hentered).resolved
    exact ⟨by simp [hname], List.isChain_singleton _, List.nodup_singleton _⟩
  | @inner visit path file houtside hasks hentered ih =>
    have hname := hnames.of_resolve (opens_of_enter hentered).resolved
    obtain ⟨u, rest, hstack, -⟩ := houtside.exists_head
    have hhead : u ∈ visit.stack.head? := by simp [hstack]
    have hleads : library.Leads name? u file.identity := (houtside.leads_iff hhead).2 ⟨path, hasks, hname⟩
    refine ⟨?_, ih.chain_cons hhead hleads, (Visits.inner houtside hasks hentered).nodup⟩
    rw [List.map_cons, ih.named, List.cons_append, List.map_cons, hname]

/-- a flattening starts with a visit of the file it is asked for, if that is readable -/
theorem Visits.exists_first (hnames : library.Names name?) (ask : Request κ) {u : ι} {text : Text}
    (hname : name? ask.path = some u) (hread : library.read u = .ok text) :
    ∃ visit, library.Visits none ask visit ∧ visit.stack = [u] := by
  obtain ⟨file, hresolve, rfl⟩ := hnames.exists_resolve ask.context hname
  exact ⟨_, .first (enter_of_fresh hresolve hread List.not_mem_nil), rfl⟩

/-- it goes on to each readable file that the visited one leads to, unless that is open, and fewer are left to open -/
theorem Visits.exists_inner (hnames : library.Names name?) (h : library.Visits none ask visit) {u v : ι} {text : Text}
    (hhead : u ∈ visit.stack.head?) (hleads : library.Leads name? u v) (hread : library.read v = .ok text)
    (hfresh : v ∉ visit.stack) :
    ∃ next, library.Visits none ask next ∧ next.stack = v :: visit.stack ∧
      library.unopened next.stack < library.unopened visit.stack := by
  obtain ⟨path, hasks, hname⟩ := (h.leads_iff hhead).1 hleads
  obtain ⟨file, hresolve, rfl⟩ := hnames.exists_resolve visit.context hname
  exact ⟨_, .inner h hasks (enter_of_fresh hresolve hread hfresh), rfl,
    unopened_cons_lt hread hfresh⟩

/-- every readable file that a visited one reaches, past the files around it, is visited -/
theorem Visits.exists_of_reaches (hnames : library.Names name?) (h : library.Visits none ask visit) {u v : ι}
    {rest : List ι} (hstack : visit.stack = u :: rest) (hreach : ReflTransGen (Avoids (library.Leads name?) rest) u v)
    {text : Text} (hread : library.read v = .ok text) :
    ∃ visit, library.Visits none ask visit ∧ visit.stack.head? = some v := by
  -- on the files that are not open: the next file on the shortened way is one of them
  induction hn : library.unopened visit.stack using Nat.strong_induction_on generalizing visit u rest with
  | _ n ih =>
    have hhead : visit.stack.head? = some u := by rw [hstack, List.head?_cons]
    rcases leaves_of_reaches hreach with rfl | ⟨w, huw, hfresh, hwv⟩
    · exact ⟨visit, h, hhead⟩
    · obtain ⟨contents, hcontents⟩ := exists_read_of_reaches hwv hread
      rw [← hstack] at hfresh hwv
      obtain ⟨next, hnext, hinner, hfewer⟩ := h.exists_inner hnames hhead huw hcontents hfresh
      exact ih _ (hn ▸ hfewer) hnext hinner hwv rfl

theorem Visits.exists_circular (hnames : library.Names name?) (h : library.Visits none ask visit) {u : ι}
    (hhead : u ∈ visit.stack.head?) (hround : GoesRound (library.Leads name?) u) :
    ∃ shown, Line.circular shown ∈ (library.flatten none ask.context ask.path).source := by
  -- the way goes on for ever, but there are only so many files to open
  induction hn : library.unopened visit.stack using Nat.strong_induction_on generalizing visit u with
  | _ n ih =>
    obtain ⟨w, huw, hwround⟩ := hround.next
    by_cases hopen : w ∈ visit.stack
    · obtain ⟨path, hasks, hname⟩ := (h.leads_iff hhead).1 huw
      obtain ⟨file, hresolve, rfl⟩ := hnames.exists_resolve visit.context hname
      exact ⟨file.display, h.mem_source hasks (enter_of_open hresolve hopen)⟩
    · obtain ⟨_, ⟨contents, hcontents, -⟩, -⟩ := hwround.next
      obtain ⟨next, hnext, hinner, hfewer⟩ := h.exists_inner hnames hhead huw hcontents hopen
      have hnextHead : next.stack.head? = some w := by rw [hinner, List.head?_cons]
      exact ih _ (hn ▸ hfewer) hnext hnextHead hwround rfl

/-- a circular include stands in a file that is open inside the file it names, or is that file -/
theorem exists_openAlong_of_circular (hnames : library.Names name?) (ask : Request κ) {before after : Source}
    {shown : Text}
    (h : (library.flatten limit ask.context ask.path).source = before ++ .circular shown :: after) :
    ∃ path around stack u v, Source.around [] before = path :: around ∧
      library.OpenAlong name? ask.path around stack ∧ u ∈ stack.head? ∧ library.Leads name? u v ∧
      name? path = some v ∧ v ∈ stack ∧
      ∃ context file, library.resolve context path = .ok file ∧ file.display = shown := by
  rcases (stands_of_split h).refuses (.circular shown) with
    hrefuses | ⟨visit, path, hvisits, hasks, haround, hrefuses⟩
  · cases hrefuses with
    | circular _ hopen => cases hopen
  · cases hrefuses with
    | @circular file hresolve hopen =>
      obtain ⟨u, rest, hstack, -⟩ := hvisits.exists_head
      have hhead : u ∈ visit.stack.head? := by simp [hstack]
      have hname := hnames.of_resolve hresolve
      exact ⟨path, visit.around, visit.stack, u, file.identity, haround, hvisits.openAlong hnames, hhead,
        (hvisits.leads_iff hhead).2 ⟨path, hasks, hname⟩, hname, hopen, visit.context, file, hresolve, rfl⟩

end Library

/-! ## Catalogs -/

namespace Catalog

/-- the file that a path means: what the aliases say, or the path itself, unless it is refused -/
def name? (catalog : Catalog) (path : Text) : Option Text :=
  match catalog.refusals.lookup path with
  | some _ => none
  | none => some ((catalog.aliases.lookup path).getD path)

/-- the include graph of a catalog -/
def Leads (catalog : Catalog) : Text → Text → Prop := catalog.library.Leads catalog.name?

theorem names (catalog : Catalog) : catalog.library.Names catalog.name? := by
  intro context path
  change catalog.name? path = (catalog.resolve context path).toOption.map Resolved.identity
  unfold name? resolve
  cases catalog.refusals.lookup path <;> rfl

/-- a file of a catalog is shown by the path as spelled -/
theorem display_of_resolve {catalog : Catalog} {context path : Text} {file : Resolved Text}
    (h : catalog.library.resolve context path = .ok file) : file.display = path := by
  change catalog.resolve context path = .ok file at h
  unfold resolve at h
  split at h
  · cases h
  · cases h
    rfl

/-- a circular include of a catalog is shown by the path of the directive it stands at -/
theorem exists_openAlong_of_circular {catalog : Catalog} {limit : Option ℕ} {context root shown : Text}
    {before after : Source}
    (h : (catalog.library.flatten limit context root).source = before ++ .circular shown :: after) :
    ∃ around stack u v, Source.around [] before = shown :: around ∧
      catalog.library.OpenAlong catalog.name? root around stack ∧
      u ∈ stack.head? ∧ catalog.Leads u v ∧ catalog.name? shown = some v ∧ v ∈ stack := by
  obtain ⟨path, around, stack, u, v, haround, hopen, hhead, hleads, hname, hv, _, file, hresolve, rfl⟩ :=
    Library.exists_openAlong_of_circular catalog.names ⟨root, context⟩ h
  rw [display_of_resolve hresolve]
  exact ⟨around, stack, u, v, haround, hopen, hhead, hleads, hname, hv⟩

end Catalog

/-- **Circular includes are cycles.** A catalog flattened without a depth limit shows a circular include exactly when
its include graph has a cycle that can be reached from the file that is flattened. Each circular include stands at a
directive of the innermost open file, and the file that the directive names is open there. -/
theorem circular_iff_cycle (catalog : Catalog) (context root : Text) :
    ((∃ shown, Line.circular shown ∈ (catalog.library.flatten none context root).source) ↔
      ∃ r v, catalog.name? root = some r ∧ ReflTransGen catalog.Leads r v ∧ TransGen catalog.Leads v v) ∧
    ∀ before shown after, (catalog.library.flatten none context root).source = before ++ .circular shown :: after →
      ∃ around stack u v, Source.around [] before = shown :: around ∧
        catalog.library.OpenAlong catalog.name? root around stack ∧
        u ∈ stack.head? ∧ catalog.Leads u v ∧ catalog.name? shown = some v ∧ v ∈ stack := by
  refine ⟨⟨?_, ?_⟩, fun before shown after hsplit => Catalog.exists_openAlong_of_circular hsplit⟩
  · rintro ⟨shown, hmem⟩
    obtain ⟨before, after, hsplit⟩ := List.append_of_mem hmem
    obtain ⟨around, stack, u, v, -, hopen, hhead, hleads, -, hv⟩ := Catalog.exists_openAlong_of_circular hsplit
    obtain ⟨r, hr, hrv⟩ := hopen.reaches hv
    have hcycle := Library.pairwise_transGen (hopen.chain_cons hhead hleads)
    exact ⟨r, v, hr, hrv, (List.pairwise_cons.1 hcycle).1 v hv⟩
  · rintro ⟨r, v, hr, hrv, hcycle⟩
    have hround : GoesRound catalog.Leads r := ⟨v, hrv, hcycle⟩
    obtain ⟨_, ⟨text, hread, -⟩, -⟩ := hround.next
    obtain ⟨visit, hfirst, hstack⟩ := Library.Visits.exists_first catalog.names ⟨root, context⟩ hr hread
    exact hfirst.exists_circular catalog.names (hstack ▸ rfl) hround

/-- a file that includes itself by another name: the cycle can be reached, and is shown inside the file it closes on -/
theorem circular_iff_cycle_alias :
    let catalog : Catalog := ⟨[("a", "#include \"b\"\n"), ("b", "#include \"self\"")], [("self", "b")], []⟩
    (∃ r v, catalog.name? "a" = some r ∧ ReflTransGen catalog.Leads r v ∧ TransGen catalog.Leads v v) ∧
      ∃ stack u, catalog.library.OpenAlong catalog.name? "a" ["b"] stack ∧ u ∈ stack.head? ∧ catalog.Leads u "b" ∧
        ("b" : Text) ∈ stack := by
  intro catalog
  have hsplit : (catalog.library.flatten none [] "a").source =
      [.includeStart "b", .includeStart "self"] ++ .circular "self" :: [.includeEnd "self", .includeEnd "b"] := by
    decide +kernel
  obtain ⟨hiff, hplace⟩ := circular_iff_cycle catalog [] "a"
  obtain ⟨around, stack, u, v, haround, hopen, hhead, hleads, hname, hv⟩ := hplace _ _ _ hsplit
  obtain rfl : (["b"] : List Text) = around := (List.cons.inj haround).2
  obtain rfl : ("b" : Text) = v := Option.some.inj hname
  have hshown : Line.circular "self" ∈ (catalog.library.flatten none [] "a").source := by
    rw [hsplit]
    exact List.mem_append_right _ List.mem_cons_self
  exact ⟨hiff.1 ⟨_, hshown⟩, stack, u, hopen, hhead, hleads, hv⟩

/-- **Everything that can be reached is read.** A catalog flattened without a depth limit reads exactly those of its
files that can be reached from the file that is flattened, whatever the guard leaves out on the way. -/
theorem reads_iff_reaches (catalog : Catalog) (context root identity : Text) :
    (.read identity ∈ (catalog.library.flatten none context root).events ∧ ∃ text, catalog.read identity = .ok text) ↔
      (∃ text, catalog.read identity = .ok text) ∧
        ∃ r, catalog.name? root = some r ∧ ReflTransGen catalog.Leads r identity := by
  rw [and_comm]
  refine and_congr_right fun ⟨text, hread⟩ => ?_
  have hread : catalog.library.read identity = .ok text := hread
  rw [Library.mem_events_iff_visits ⟨root, context⟩ hread]
  constructor
  · rintro ⟨visit, hvisits, hhead⟩
    exact (hvisits.openAlong catalog.names).reaches (List.mem_of_head? hhead)
  · rintro ⟨r, hr, hreach⟩
    have hreach : ReflTransGen (Avoids catalog.Leads []) r identity :=
      ReflTransGen.mono (fun _ _ hleads => ⟨hleads, List.not_mem_nil⟩) _ _ hreach
    obtain ⟨contents, hcontents⟩ := Library.exists_read_of_reaches hreach hread
    obtain ⟨visit, hfirst, hstack⟩ := Library.Visits.exists_first catalog.names ⟨root, context⟩ hr hcontents
    exact hfirst.exists_of_reaches catalog.names hstack hreach hread

/-- a file that is included by two others is reached, one that is included by none is not -/
theorem reads_iff_reaches_shared :
    let catalog : Catalog :=
      ⟨[("main", "#include \"a\"\n#include \"b\"\n"), ("a", "#include \"shared\"\n"), ("b", "#include \"shared\"\n"),
        ("shared", "#include \"main\"\nfloat x;\n"), ("spare", "#include \"main\"\n")], [], []⟩
    (∃ r, catalog.name? "main" = some r ∧ ReflTransGen catalog.Leads r "shared") ∧
      ¬ ∃ r, catalog.name? "main" = some r ∧ ReflTransGen catalog.Leads r "spare" := by
  intro catalog
  have hread : .read "shared".toList ∈ (catalog.library.flatten none [] "main").events := by decide +kernel
  have hspare : .read "spare".toList ∉ (catalog.library.flatten none [] "main").events := by decide +kernel
  constructor
  · exact ((reads_iff_reaches catalog [] "main" "shared").1 ⟨hread, _, rfl⟩).2
  · intro hreach
    exact hspare ((reads_iff_reaches catalog [] "main" "spare").2 ⟨⟨_, rfl⟩, hreach⟩).1

end GlslInspect
