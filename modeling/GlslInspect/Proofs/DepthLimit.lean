/-
The depth limit cuts off, and does nothing else.

With a limit `d` no file is visited inside more than `d` includes (`Visits.length_around_le`), so code lies at most that
deep; and an include is cut off exactly where one more would have to be opened, with `d + 1` includes around the line
that is left for it. The limit is looked at after the guard and before the file is read: as long as it cuts nothing off,
every include is answered as without it (`enter_none_eq`), and the two flattenings are one. With at most `d` readable
files there is nothing to cut off, because includes cannot nest deeper than there are files.
-/
import GlslInspect.Include.Catalog
import GlslInspect.Proofs.Termination
import GlslInspect.Proofs.Visit

namespace GlslInspect

/-! ## Levels and includes around a line -/

namespace Source

/-- the level behind some lines counts the includes that are begun there and not ended -/
theorem length_around (outer : List Text) (s : Source) : (s.around outer).length = s.levelAfter outer.length := by
  induction s generalizing outer with
  | nil => rfl
  | cons line s ih =>
    have hline : (line.around outer).length = line.level outer.length := by
      cases line <;> simp [Line.around, Line.level]
    change (around (line.around outer) s).length = levelAfter (line.level outer.length) s
    rw [ih, hline]

theorem levelAfter_le_nesting (before after : Source) : before.levelAfter 0 ≤ (before ++ after).nesting := by
  unfold nesting
  rw [nestingFrom_append]
  exact (le_nestingFrom _ _).trans (le_max_right _ _)

end Source

namespace Library

variable {ι κ : Type} [DecidableEq ι] {library : Library ι κ} {d : ℕ}

/-! ## Where the limit cuts off -/

theorem levelAfter_of_code (ask : Request κ) {before after : Source} {text : Text}
    (h : (library.flatten (some d) ask.context ask.path).source = before ++ .code text :: after) :
    before.levelAfter 0 ≤ d := by
  obtain ⟨visit, hvisits, haround⟩ := (stands_of_split h).exists_of_code
  have hlevel := Source.length_around [] before
  rw [haround] at hlevel
  calc before.levelAfter 0
    _ = visit.around.length := hlevel.symm
    _ ≤ d := hvisits.length_around_le d rfl

theorem levelAfter_of_depthLimit (ask : Request κ) {before after : Source} {shown : Text} {n : ℕ}
    (h : (library.flatten (some d) ask.context ask.path).source = before ++ .depthLimit shown n :: after) :
    before.levelAfter 0 = d + 1 ∧ n = d := by
  rcases (stands_of_split h).refuses (.depthLimit shown n) with
    hrefuses | ⟨visit, path, hvisits, -, haround, hrefuses⟩
  · cases hrefuses with
    | tooDeep _ _ _ hdeep => exact absurd hdeep (Nat.not_lt_zero n)
  · cases hrefuses with
    | tooDeep _ _ hpast hdeep =>
      obtain rfl : d = n := Option.some.inj hpast
      have hlevel := Source.length_around [] before
      rw [haround, List.length_cons, List.length_nil] at hlevel
      have hwithin : visit.around.length ≤ d := hvisits.length_around_le d rfl
      rw [hvisits.length_stack] at hdeep
      exact ⟨by omega, rfl⟩

/-! ## Where it does not -/

/-- an include that the limit does not cut off is answered as without it -/
theorem enter_none_eq {ask : Request κ} {stack : List ι} {result : Except (Skip ι κ) (Opened ι κ)}
    (h : library.enter (some d) stack ask = result) (hdeep : ∀ file n, result ≠ .error (.tooDeep file n)) :
    library.enter none stack ask = result := by
  subst h
  unfold enter at hdeep ⊢
  cases hresolve : library.resolve ask.context ask.path with
  | error reason => rfl
  | ok file =>
    by_cases hopen : file.identity ∈ stack
    · simp only [hopen, if_true]
    · cases hpast : pastLimit (some d) stack with
      | none => rfl
      | some n => simp [hresolve, hopen, hpast] at hdeep

/-- pieces of which the limit cuts nothing off expand as without it -/
theorem expand_none_eq {stack : List ι} {context : κ} {pieces : List Text}
    (h : ∀ shown n, Line.depthLimit shown n ∉ (library.expand (some d) stack context pieces).lines) :
    library.expand none stack context pieces = library.expand (some d) stack context pieces := by
  refine expand_induction library (some d)
    (motive := fun stack context pieces tree => (∀ shown n, Line.depthLimit shown n ∉ tree.lines) →
      library.expand none stack context pieces = tree)
    ?_ ?_ ?_ ?_ stack context pieces h
  · intro stack context _
    exact expand_nil
  · intro stack context piece rest tree hpath ih hcut
    rw [expand_code hpath, ih fun shown n hmem => hcut shown n (List.mem_cons_of_mem _ hmem)]
  · intro stack context piece rest path why tree hpath hentered ih hcut
    have hwhy : ∀ file n, (.error why : Except (Skip ι κ) (Opened ι κ)) ≠ .error (.tooDeep file n) := by
      rintro file n heq
      cases heq
      exact hcut file.display n (by simp [Expansion.lines, Skip.line])
    rw [expand_skipped hpath (enter_none_eq hentered hwhy), ih fun shown n hmem => hcut shown n ?_]
    exact List.mem_cons_of_mem _ (List.mem_cons_of_mem _ (List.mem_cons_of_mem _ hmem))
  · intro stack context piece rest path file body tree hpath hentered ihbody ih hcut
    have hbody : ∀ shown n, Line.depthLimit shown n ∉ body.lines := by
      intro shown n hmem
      refine hcut shown n (List.mem_cons_of_mem _ (List.mem_append_left _ ?_))
      exact Source.mem_closeLast_of_marker rfl hmem
    have hrest : ∀ shown n, Line.depthLimit shown n ∉ tree.lines := by
      intro shown n hmem
      exact hcut shown n (List.mem_cons_of_mem _ (List.mem_append_right _ (List.mem_cons_of_mem _ hmem)))
    rw [expand_nested hpath (enter_none_eq hentered (by simp)), ihbody hbody, ih hrest]

/-- a flattening of which the limit cuts nothing off is the one without it, with all that happens on the way -/
theorem flatten_none_eq {context : κ} {path : Text}
    (h : ∀ shown n, Line.depthLimit shown n ∉ (library.flatten (some d) context path).source) :
    library.flatten (some d) context path = library.flatten none context path := by
  have hroot : library.enter none [] ⟨path, context⟩ = library.enter (some d) [] ⟨path, context⟩ := by
    refine enter_none_eq rfl fun file n hdeep => h file.display n ?_
    exact (source_of_refused hdeep).symm ▸ List.mem_singleton_self _
  cases hentered : library.enter (some d) [] ⟨path, context⟩ with
  | error why => simp [flatten, hroot, hentered]
  | ok file =>
    rw [source_of_opened hentered] at h
    simp [flatten, hroot, hentered, expand_none_eq h]

theorem nesting_flatten_le {readable : Finset ι}
    (hreads : ∀ identity text, library.read identity = .ok text → identity ∈ readable) (limit : Option ℕ) (context : κ)
    (path : Text) : (library.flatten limit context path).source.nesting ≤ readable.card := by
  have honly : library.provider.ReadsOnly readable := fun h => hreads _ _ (congrArg Prod.fst h)
  obtain ⟨answer, hanswer, hnesting⟩ := library.provider.exists_answer limit honly () context path
  rwa [answers_iff.1 hanswer] at hnesting

end Library

/-- **The depth limit truncates.** In what a file of any library is flattened to with a limit `d`, code lies inside at
most `d` includes, and what is cut off lies inside `d + 1` and says so. If nothing is cut off, the limit makes no
difference; and it makes none as soon as it is not below the number of readable files. -/
theorem depth_limit_truncates {ι κ : Type} [DecidableEq ι] (library : Library ι κ) (context : κ) (root : Text) (d : ℕ) :
    (∀ (before after : Source) (text : Text),
      (library.flatten (some d) context root).source = before ++ .code text :: after → before.levelAfter 0 ≤ d) ∧
    (∀ (before after : Source) (shown : Text) (n : ℕ),
      (library.flatten (some d) context root).source = before ++ .depthLimit shown n :: after →
      before.levelAfter 0 = d + 1 ∧ n = d) ∧
    ((∀ shown n, Line.depthLimit shown n ∉ (library.flatten (some d) context root).source) →
      library.flatten (some d) context root = library.flatten none context root) ∧
    ∀ readable : Finset ι, (∀ identity text, library.read identity = .ok text → identity ∈ readable) →
      readable.card ≤ d → library.flatten (some d) context root = library.flatten none context root := by
  refine ⟨fun before after text h => Library.levelAfter_of_code ⟨root, context⟩ h,
    fun before after shown n h => Library.levelAfter_of_depthLimit ⟨root, context⟩ h,
    Library.flatten_none_eq, fun readable hreads hcard => Library.flatten_none_eq fun shown n hmem => ?_⟩
  obtain ⟨before, after, hsplit⟩ := List.append_of_mem hmem
  obtain ⟨hlevel, -⟩ := Library.levelAfter_of_depthLimit ⟨root, context⟩ hsplit
  have hdeep := Source.levelAfter_le_nesting before (.depthLimit shown n :: after)
  have hflat := Library.nesting_flatten_le hreads (some d) context root
  rw [hsplit] at hflat
  omega

/-- three files in a row, the last of which includes the first again: a limit of one cuts off the third, a limit of two
cuts off nothing, and a limit of three is not below the number of files -/
theorem depth_limit_truncates_row :
    let catalog : Catalog :=
      ⟨[("a", "#include \"b\"\n"), ("b", "#include \"c\"\nfloat b;"), ("c", "#include \"a\"\n")], [], []⟩
    let opening : Source := [.includeStart "b", .includeStart "c"]
    let closing : Source := [.depthLimit "c" 1, .includeEnd "c"]
    (catalog.library.flatten (some 1) [] "a").source =
        opening ++ .depthLimit "c" 1 :: [.includeEnd "c", .code "float b;\n", .includeEnd "b"] ∧
      opening.levelAfter 0 = 1 + 1 ∧ (opening ++ closing : Source).levelAfter 0 ≤ 1 ∧
      catalog.library.flatten (some 2) [] "a" = catalog.library.flatten none [] "a" ∧
      catalog.library.flatten (some 3) [] "a" = catalog.library.flatten none [] "a" := by
  intro catalog opening closing
  have hone : (catalog.library.flatten (some 1) [] "a").source =
      opening ++ .depthLimit "c" 1 :: [.includeEnd "c", .code "float b;\n", .includeEnd "b"] := by
    decide +kernel
  have htwo : (catalog.library.flatten (some 2) [] "a").source =
      [.includeStart "b", .includeStart "c", .includeStart "a", .circular "a", .includeEnd "a", .includeEnd "c",
        .code "float b;\n", .includeEnd "b"] := by
    decide +kernel
  have hreads : ∀ identity text, catalog.library.read identity = .ok text →
      identity ∈ (catalog.files.map Prod.fst).toFinset :=
    fun identity text hread => List.mem_toFinset.2 (Catalog.mem_of_read hread)
  obtain ⟨hcode, hdepth, -, -⟩ := depth_limit_truncates catalog.library [] "a" 1
  obtain ⟨-, -, hnone, -⟩ := depth_limit_truncates catalog.library [] "a" 2
  obtain ⟨-, -, -, hmany⟩ := depth_limit_truncates catalog.library [] "a" 3
  refine ⟨hone, (hdepth opening _ _ 1 hone).1, hcode (opening ++ closing) [.includeEnd "b"] _ hone, hnone ?_,
    hmany _ hreads (by decide +kernel)⟩
  rw [htwo]
  simp

end GlslInspect
