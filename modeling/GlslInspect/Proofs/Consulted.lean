/-
What a flattening depends on.

A flattening asks its library what paths mean and what files hold, and the events list what it asks for. Nothing else
can matter: a second library that says the same of every file that is asked for (`Library.AgreesOn`) is flattened to
the same lines with the same events, whatever else it has. The two libraries need not have equally many files, so the
argument follows the expansion of the first one only:
- `enter_of_agreesOn`: an include is answered alike, because what it reads is among its events;
- `expand_of_agreesOn`, `flatten_of_agreesOn`: so are all includes on the way.
A file is asked for only where a visited file names it (`exists_asks_of_read_mem`), so no file is that cannot be reached
in the include graph (`exists_reaches_of_read_mem`).
Main result, for catalogs: `unread_files_do_not_matter`.
-/
import GlslInspect.FileTree
import GlslInspect.Proofs.IncludeGraph

namespace GlslInspect

open Relation

namespace Library

variable {ι κ : Type}

/-- another library means the same by every path, and says the same of each file that is asked for in some events -/
structure AgreesOn (library other : Library ι κ) (events : List (Event ι κ)) : Prop where
  resolve : ∀ context path, other.resolve context path = library.resolve context path
  read : ∀ identity, .read identity ∈ events → other.read identity = library.read identity

theorem AgreesOn.mono {library other : Library ι κ} {events fewer : List (Event ι κ)}
    (h : library.AgreesOn other events) (hfewer : fewer ⊆ events) : library.AgreesOn other fewer :=
  ⟨h.resolve, fun identity hmem => h.read identity (hfewer hmem)⟩

/-- what happens when an include is asked for -/
def askEvents (depth : ℕ) (ask : Request κ) : Except (Skip ι κ) (Opened ι κ) → List (Event ι κ)
  | .error why => why.events depth ask
  | .ok file => file.events depth ask

variable [DecidableEq ι] {library other : Library ι κ} {limit : Option ℕ}

/-! ## Two libraries that agree -/

/-- an include is answered alike -/
theorem enter_of_agreesOn (depth : ℕ) {stack : List ι} {ask : Request κ}
    (h : library.AgreesOn other (askEvents depth ask (library.enter limit stack ask))) :
    other.enter limit stack ask = library.enter limit stack ask := by
  have hread := h.read
  unfold enter at hread ⊢
  rw [h.resolve]
  cases hresolve : library.resolve ask.context ask.path with
  | error reason => rfl
  | ok file =>
    by_cases hopen : file.identity ∈ stack
    · simp only [hopen, if_true]
    · cases hpast : pastLimit limit stack with
      | some n => rfl
      | none =>
        -- only here the file is read, and then this is one of the events
        have hsame : other.read file.identity = library.read file.identity := by
          refine hread file.identity ?_
          simp only [hresolve, hopen, if_false, hpast]
          cases library.read file.identity <;> simp [askEvents, Skip.events, Opened.events]
        simp only [hsame]

theorem expand_of_agreesOn {depth : ℕ} {stack : List ι} {context : κ} {pieces : List Text}
    (h : library.AgreesOn other ((library.expand limit stack context pieces).events depth)) :
    other.expand limit stack context pieces = library.expand limit stack context pieces := by
  refine expand_induction library limit
    (motive := fun stack context pieces tree => ∀ depth, library.AgreesOn other (tree.events depth) →
      other.expand limit stack context pieces = tree)
    ?_ ?_ ?_ ?_ stack context pieces depth h
  · intro stack context depth _
    exact expand_nil
  · intro stack context piece rest tree hpath ih depth h
    rw [expand_code hpath, ih depth h]
  · intro stack context piece rest path why tree hpath hentered ih depth h
    have hsame : other.enter limit stack ⟨path, context⟩ = .error why := by
      rw [← hentered]
      refine enter_of_agreesOn depth (h.mono ?_)
      rw [hentered]
      exact List.subset_append_left _ _
    rw [expand_skipped hpath hsame, ih depth (h.mono (List.subset_append_right _ _))]
  · intro stack context piece rest path file body tree hpath hentered ihbody ih depth h
    have hsame : other.enter limit stack ⟨path, context⟩ = .ok file := by
      rw [← hentered]
      refine enter_of_agreesOn depth (h.mono ?_)
      rw [hentered, Expansion.events, List.append_assoc]
      exact List.subset_append_left _ _
    have hbody : library.AgreesOn other (body.events (depth + 1)) := by
      refine h.mono fun event hevent => ?_
      exact List.mem_append_left _ (List.mem_append_right _ hevent)
    rw [expand_nested hpath hsame, ihbody _ hbody, ih depth (h.mono (List.subset_append_right _ _))]

/-- a file is flattened alike, with all that happens on the way -/
theorem flatten_of_agreesOn {context : κ} {path : Text}
    (h : library.AgreesOn other (library.flatten limit context path).events) :
    other.flatten limit context path = library.flatten limit context path := by
  have hroot : library.AgreesOn other (askEvents 0 ⟨path, context⟩ (library.enter limit [] ⟨path, context⟩)) := by
    refine h.mono ?_
    unfold flatten Flattening.events
    cases library.enter limit [] ⟨path, context⟩ with
    | error why => exact List.Subset.refl _
    | ok file => exact List.subset_append_left _ _
  have hsame := enter_of_agreesOn 0 hroot
  cases hentered : library.enter limit [] ⟨path, context⟩ with
  | error why => simp only [flatten, hsame, hentered]
  | ok file =>
    have hbody : library.AgreesOn other
        ((library.expand limit [file.identity] file.context (Text.pieces file.text)).events 1) := by
      refine h.mono ?_
      rw [events_of_opened hentered]
      exact List.subset_append_right _ _
    simp only [flatten, hsame, hentered, expand_of_agreesOn hbody]

/-! ## Files that are asked for -/

variable {ask : Request κ} {name? : Text → Option ι}

/-- the file that an include asks for is the one that its path means -/
theorem resolve_of_read_mem {depth : ℕ} {stack : List ι} {identity : ι}
    (h : .read identity ∈ askEvents depth ask (library.enter limit stack ask)) :
    ∃ file, library.resolve ask.context ask.path = .ok file ∧ file.identity = identity := by
  cases hentered : library.enter limit stack ask with
  | error why =>
    rw [hentered] at h
    cases why with
    | unreadable file reason =>
      have hsame : file.identity = identity := by simpa [askEvents, Skip.events, eq_comm] using h
      refine ⟨file, ?_, hsame⟩
      unfold enter at hentered
      grind
    | _ => simp [askEvents, Skip.events] at h
  | ok file =>
    rw [hentered] at h
    have hsame : file.identity = identity := by simpa [askEvents, Opened.events, eq_comm] using h
    exact ⟨file.toResolved, (opens_of_enter hentered).resolved, hsame⟩

/-- inside an expansion, a file is asked for where a visited file names it -/
theorem exists_asks_of_read_mem {text : Text} {pieces : List Text} {stack : List ι} {around : List Text} {context : κ}
    {depth : ℕ} {identity : ι} (hvisits : library.Visits limit ask ⟨stack, around, context, text⟩)
    (hpieces : pieces ⊆ Text.pieces text)
    (hmem : .read identity ∈ (library.expand limit stack context pieces).events depth) :
    ∃ visit path file, library.Visits limit ask visit ∧ visit.Asks path ∧
      library.resolve visit.context path = .ok file ∧ file.identity = identity := by
  refine expand_induction library limit
    (motive := fun stack context pieces tree => ∀ around text depth,
      library.Visits limit ask ⟨stack, around, context, text⟩ → pieces ⊆ Text.pieces text →
      .read identity ∈ tree.events depth → ∃ visit path file, library.Visits limit ask visit ∧ visit.Asks path ∧
        library.resolve visit.context path = .ok file ∧ file.identity = identity)
    ?_ ?_ ?_ ?_ stack context pieces around text depth hvisits hpieces hmem
  · intro stack context around text depth _ _ hmem
    cases hmem
  · intro stack context piece rest tree _ ih around text depth hvisits hpieces hmem
    exact ih around text depth hvisits (List.cons_subset.1 hpieces).2 hmem
  · intro stack context piece rest path why tree hpath hentered ih around text depth hvisits hpieces hmem
    obtain ⟨hpiece, hrest⟩ := List.cons_subset.1 hpieces
    rcases List.mem_append.1 hmem with hmem | hmem
    · have hasked : .read identity ∈ askEvents depth ⟨path, context⟩ (library.enter limit stack ⟨path, context⟩) := by
        rwa [hentered]
      obtain ⟨file, hresolve, hsame⟩ := resolve_of_read_mem hasked
      exact ⟨_, path, file, hvisits, ⟨piece, hpiece, hpath⟩, hresolve, hsame⟩
    · exact ih around text depth hvisits hrest hmem
  · intro stack context piece rest path file body tree hpath hentered ihbody ih around text depth hvisits hpieces hmem
    obtain ⟨hpiece, hrest⟩ := List.cons_subset.1 hpieces
    have hasks : Visit.Asks ⟨stack, around, context, text⟩ path := ⟨piece, hpiece, hpath⟩
    rcases List.mem_append.1 hmem with hmem | hmem
    · rcases List.mem_append.1 hmem with hmem | hmem
      · have hsame : file.identity = identity := by simpa [Opened.events, eq_comm] using hmem
        exact ⟨_, path, file.toResolved, hvisits, hasks, (opens_of_enter hentered).resolved, hsame⟩
      · exact ihbody _ _ _ (.inner hvisits hasks hentered) (List.Subset.refl _) hmem
    · exact ih around text depth hvisits hrest hmem

/-- a file that is asked for can be reached in the include graph -/
theorem exists_reaches_of_read_mem (hnames : library.Names name?) (ask : Request κ) {identity : ι}
    (hmem : .read identity ∈ (library.flatten limit ask.context ask.path).events) :
    ∃ r, name? ask.path = some r ∧ ReflTransGen (library.Leads name?) r identity := by
  have hroot : .read identity ∈ askEvents 0 ask (library.enter limit [] ask) →
      ∃ r, name? ask.path = some r ∧ ReflTransGen (library.Leads name?) r identity := by
    intro hmem
    obtain ⟨file, hresolve, rfl⟩ := resolve_of_read_mem hmem
    exact ⟨file.identity, hnames.of_resolve hresolve, .refl⟩
  cases hentered : library.enter limit [] ask with
  | error why =>
    have hevents : (library.flatten limit ask.context ask.path).events = why.events 0 ask := by
      simp [flatten, Flattening.events, hentered]
    refine hroot ?_
    rwa [hentered, askEvents, ← hevents]
  | ok file =>
    rw [events_of_opened hentered] at hmem
    rcases List.mem_append.1 hmem with hmem | hmem
    · refine hroot ?_
      rwa [hentered]
    · obtain ⟨visit, path, file, hvisits, hasks, hresolve, rfl⟩ :=
        exists_asks_of_read_mem (.first hentered) (List.Subset.refl _) hmem
      obtain ⟨u, rest, hstack, -⟩ := hvisits.exists_head
      have hhead : u ∈ visit.stack.head? := by simp [hstack]
      obtain ⟨r, hr, hreach⟩ := (hvisits.openAlong hnames).reaches (List.mem_of_mem_head? hhead)
      exact ⟨r, hr, hreach.tail ((hvisits.leads_iff hhead).2 ⟨path, hasks, hnames.of_resolve hresolve⟩)⟩

end Library

/-! ## Catalogs -/

namespace Catalog

/-- a catalog with the same other names and refusals agrees where it has the same files -/
theorem agreesOn {catalog other : Catalog} {events : List (Event Text)} (haliases : other.aliases = catalog.aliases)
    (hrefusals : other.refusals = catalog.refusals)
    (hfiles : ∀ identity, .read identity ∈ events → other.files.lookup identity = catalog.files.lookup identity) :
    catalog.library.AgreesOn other.library events := by
  refine ⟨fun context path => ?_, fun identity hmem => ?_⟩
  · change other.resolve context path = catalog.resolve context path
    unfold resolve
    rw [haliases, hrefusals]
  · change other.read identity = catalog.read identity
    unfold read
    rw [hfiles identity hmem]

/-- storing a text changes nothing under another identity -/
theorem lookup_put_of_ne (catalog : Catalog) (text : Text) {identity other : Text} (h : other ≠ identity) :
    (catalog.put identity text).files.lookup other = catalog.files.lookup other := by
  have hkey : (other == identity) = false := by simpa using h
  unfold put
  rw [List.lookup_cons, hkey]
  exact lookup_filter_ne h

theorem lookup_erase_of_ne (catalog : Catalog) {identity other : Text} (h : other ≠ identity) :
    (catalog.erase identity).files.lookup other = catalog.files.lookup other :=
  lookup_filter_ne h

end Catalog

/-- **Files that are not read do not matter.** Two catalogs with the same other names and refusals, and with the same
text or none under each identity that the flattening of the first one asks for: the second one is flattened to the same
lines, with the same notes and the same calls in the same order. A file that is not asked for can be stored anew or
removed, and a file that cannot be reached in the include graph is never asked for. -/
theorem unread_files_do_not_matter (catalog : Catalog) (limit : Option ℕ) (context root : Text) :
    (∀ other : Catalog, other.aliases = catalog.aliases → other.refusals = catalog.refusals →
      (∀ identity, .read identity ∈ (catalog.library.flatten limit context root).events →
        other.files.lookup identity = catalog.files.lookup identity) →
      (other.library.flatten limit context root).source = (catalog.library.flatten limit context root).source ∧
      (other.library.flatten limit context root).notes = (catalog.library.flatten limit context root).notes ∧
      (other.library.flatten limit context root).events = (catalog.library.flatten limit context root).events) ∧
    (∀ identity, .read identity ∉ (catalog.library.flatten limit context root).events →
      (∀ text, (catalog.put identity text).library.flatten limit context root =
        catalog.library.flatten limit context root) ∧
      (catalog.erase identity).library.flatten limit context root = catalog.library.flatten limit context root) ∧
    ∀ identity, (¬ ∃ r, catalog.name? root = some r ∧ ReflTransGen catalog.Leads r identity) →
      .read identity ∉ (catalog.library.flatten limit context root).events := by
  refine ⟨fun other haliases hrefusals hfiles => ?_, fun identity hunread => ⟨fun text => ?_, ?_⟩,
    fun identity hunreached hmem => ?_⟩
  · have hsame := Library.flatten_of_agreesOn (Catalog.agreesOn haliases hrefusals hfiles)
    rw [hsame]
    exact ⟨rfl, rfl, rfl⟩
  · refine Library.flatten_of_agreesOn (Catalog.agreesOn rfl rfl fun read hmem => ?_)
    exact catalog.lookup_put_of_ne text fun heq => hunread (heq ▸ hmem)
  · refine Library.flatten_of_agreesOn (Catalog.agreesOn rfl rfl fun read hmem => ?_)
    exact catalog.lookup_erase_of_ne fun heq => hunread (heq ▸ hmem)
  · exact hunreached (Library.exists_reaches_of_read_mem catalog.names ⟨root, context⟩ hmem)

/-- a catalog with a file that nothing leads to and a path that leads to no file: another text in the one and a file
that is new do not show, and the file can be removed -/
theorem unread_files_do_not_matter_spare :
    let catalog : Catalog :=
      ⟨[("main", "#include \"part\"\n#include \"gone\""), ("part", "float a;\n"), ("spare", "#include \"main\"\n")],
        [], []⟩
    let other : Catalog :=
      ⟨[("spare", "vec4 b;"), ("more", ""), ("part", "float a;\n"), ("main", "#include \"part\"\n#include \"gone\"")],
        [], []⟩
    (∀ identity, .read identity ∈ (catalog.library.flatten none [] "main").events →
        other.files.lookup identity = catalog.files.lookup identity) ∧
      (other.library.flatten none [] "main").source = (catalog.library.flatten none [] "main").source ∧
      (¬ ∃ r, catalog.name? "main" = some r ∧ ReflTransGen catalog.Leads r "spare") ∧
      (catalog.erase "spare").library.flatten none [] "main" = catalog.library.flatten none [] "main" := by
  intro catalog other
  have hevents : (catalog.library.flatten none [] "main").events =
      [.resolve ⟨"main", []⟩, .read "main", .note (.processing 0 "main"), .resolve ⟨"part", "main"⟩, .read "part",
        .note (.processing 1 "part"), .resolve ⟨"gone", "main"⟩, .read "gone",
        .note (.unreadable 1 "gone" "no such file: gone")] := by
    decide +kernel
  have hfiles : ∀ identity, .read identity ∈ (catalog.library.flatten none [] "main").events →
      other.files.lookup identity = catalog.files.lookup identity := by
    intro identity hmem
    rw [hevents] at hmem
    have hread : identity = "main" ∨ identity = "part" ∨ identity = "gone" := by simpa using hmem
    rcases hread with rfl | rfl | rfl <;> decide
  have hunreached : ¬ ∃ r, catalog.name? "main" = some r ∧ ReflTransGen catalog.Leads r "spare" := by
    have hmain : ∀ v, catalog.Leads "main" v → v = "part" ∨ v = "gone" := by
      rintro v ⟨text, hread, piece, hpiece, path, hpath, hname⟩
      cases hread
      have hpieces : Text.pieces "#include \"part\"\n#include \"gone\"" =
          [("#include \"part\"\n" : Text), ("#include \"gone\"" : Text)] := by
        decide +kernel
      rw [hpieces, List.mem_cons, List.mem_singleton] at hpiece
      rcases hpiece with rfl | rfl
      · cases hpath
        cases hname
        exact Or.inl rfl
      · cases hpath
        cases hname
        exact Or.inr rfl
    have hpart : ∀ u v : Text, u = "part" ∨ u = "gone" → ¬ catalog.Leads u v := by
      rintro u v (rfl | rfl) ⟨text, hread, piece, hpiece, path, hpath, -⟩
      · cases hread
        have hpieces : Text.pieces "float a;\n" = [("float a;\n" : Text)] := by decide +kernel
        rw [hpieces, List.mem_singleton] at hpiece
        subst hpiece
        cases hpath
      · cases hread
    rintro ⟨r, hr, hreach⟩
    cases hr
    rcases hreach.cases_head with heq | ⟨w, hw, hrest⟩
    · exact absurd heq (by decide)
    · rcases hrest.cases_head with rfl | ⟨x, hx, -⟩
      · exact absurd (hmain _ hw) (by decide)
      · exact hpart w x (hmain w hw) hx
  obtain ⟨hsame, hremove, hreached⟩ := unread_files_do_not_matter catalog none [] "main"
  exact ⟨hfiles, (hsame other rfl rfl hfiles).1, hunreached, (hremove "spare" (hreached "spare" hunreached)).2⟩

end GlslInspect
