import CondCss.Cli.Command
import CondCss.Cli.FileTree
import CondCss.Proofs.Expand.Conservation
import CondCss.Proofs.Occurrence.Extraction

/-!
# Which faults are reported

A value is faulty if one of its calls cannot be read or is never closed. Expanding a value ends at the
first thing that stands in its way, and only that is reported (`diagnostics_declaration`). So the finding
is an error if the fault comes first (`FaultComesFirst`): a call that cannot be read is passed over behind
one that needs computed styles, and a call that is never closed behind any closed one.
-/

namespace CondCss
namespace Expand

open Occurrence

/-! ### Faults -/

/-- A call whose content is no conditional. -/
def IsMalformed (o : Occurrence) : Prop :=
  ∃ e, Conditional.parse .strict o.content = .error e

/-- A call that can be written as blocks. -/
def IsExpandable (o : Occurrence) : Prop :=
  ∃ c, Conditional.parse .strict o.content = .ok c ∧ c.isNative = true

/-- Some call of the value starts outside of all that are found: it is never closed. -/
def HasUnclosed (value : Text) : Prop :=
  ∃ pos, StartsAt value pos ∧ ∀ o ∈ allIn value, ¬(o.start ≤ pos ∧ pos < o.stop)

/-- Some call of the value cannot be read or is never closed. -/
def IsFaulty (value : Text) : Prop :=
  (∃ o ∈ allIn value, IsMalformed o) ∨ HasUnclosed value

/-- The fault of the value is met before anything else that keeps it from being expanded. -/
def FaultComesFirst (value : Text) : Prop :=
  (allIn value = [] ∧ HasUnclosed value) ∨
    ∃ front o back, allIn value = front ++ o :: back ∧ (∀ o' ∈ front, IsExpandable o') ∧ IsMalformed o

/-- Where no call is found, every call is unclosed. -/
theorem hasUnclosed_of_allIn {value : Text} (none : allIn value = []) :
    HasUnclosed value ↔ anyIn value = true := by
  rw [anyIn_iff, HasUnclosed, none]
  simp

theorem FaultComesFirst.isFaulty {value : Text} (h : FaultComesFirst value) : IsFaulty value := by
  rcases h with ⟨-, unclosed⟩ | ⟨front, o, back, calls, -, malformed⟩
  · exact .inr unclosed
  · exact .inl ⟨o, by simp [calls], malformed⟩

/-- The first malformed call comes first, if all others are expandable. -/
theorem faultComesFirst_of_malformed {value : Text}
    (readable : ∀ o ∈ allIn value, IsMalformed o ∨ IsExpandable o)
    (malformed : ∃ o ∈ allIn value, IsMalformed o) : FaultComesFirst value := by
  classical
  obtain ⟨o, member, isMalformed⟩ := malformed
  cases found : (allIn value).find? fun o => decide (IsMalformed o) with
  | none => exact absurd isMalformed (by simpa using List.find?_eq_none.1 found o member)
  | some first =>
    obtain ⟨here, front, back, calls, before⟩ := List.find?_eq_some_iff_append.1 found
    refine .inr ⟨front, first, back, calls, fun o' inFront => ?_, by simpa using here⟩
    rcases readable o' (by simp [calls, inFront]) with isMalformed | expandable
    · exact absurd isMalformed (by simpa using before o' inFront)
    · exact expandable

/-! ### The first obstacle -/

theorem readNative_eq_ok_iff {o : Occurrence} {c : Conditional} :
    readNative o = .ok c ↔ Conditional.parse .strict o.content = .ok c ∧ c.isNative = true := by
  refine ⟨readNative_eq_ok, fun ⟨read, isNative⟩ => ?_⟩
  simp [readNative, read, isNative]

/-- What stands in the way of one call. -/
theorem readNative_eq_error_iff {o : Occurrence} {why : Deferral} :
    readNative o = .error why ↔
      (∃ e, Conditional.parse .strict o.content = .error e ∧ .malformed e o.fullText = why) ∨
        ∃ c, Conditional.parse .strict o.content = .ok c ∧ c.isNative = false ∧ .needsStyles = why := by
  cases read : Conditional.parse .strict o.content with
  | error e => simp [readNative, read]
  | ok c => cases isNative : c.isNative <;> simp [readNative, read, isNative]

theorem isExpandable_iff {o : Occurrence} : IsExpandable o ↔ ∃ c, readNative o = .ok c := by
  simp only [IsExpandable, readNative_eq_ok_iff]

/-- Reading a list of calls fails at the first one that fails. -/
theorem mapM_readNative_eq_error_iff {calls : List Occurrence} {why : Deferral} :
    calls.mapM readNative = .error why ↔
      ∃ front o back, calls = front ++ o :: back ∧ (∀ o' ∈ front, IsExpandable o') ∧
        readNative o = .error why := by
  simp only [isExpandable_iff]
  exact mapM_eq_error_iff

/-- Without closed calls the value is kept from being expanded by an unclosed one only. -/
theorem variants_of_allIn_eq_nil {value : Text} (none : allIn value = []) :
    variants value = if anyIn value then .error .unclosed else .ok [⟨[], value⟩] := by
  unfold variants
  rw [none]
  cases anyIn value <;> rfl

/-- With closed calls the first one that cannot be expanded is met before anything else. -/
theorem variants_of_mapM_eq_error {value : Text} {why : Deferral}
    (h : (allIn value).mapM readNative = .error why) : variants value = .error why := by
  unfold variants
  split
  · rename_i none
    rw [none] at h
    cases h
  · rw [h]
    rfl

/-- What is met behind the calls is no error. -/
theorem severity_of_mapM_eq_ok {value : Text} {calls : List Conditional} {why : Deferral}
    (some : allIn value ≠ []) (read : (allIn value).mapM readNative = .ok calls)
    (h : variants value = .error why) : why.severity ≠ .error := by
  unfold variants at h
  split at h
  · exact absurd ‹_› some
  · rw [read] at h
    change (if maxVariants < selectionCount calls then _ else _) = _ at h
    split at h
    · cases h
      simp [Deferral.severity]
    · change (if List.any _ _ = true then _ else _) = _ at h
      split at h
      · cases h
        simp [Deferral.severity]
      · cases h

/-- A value is kept from being expanded by an error just when a fault comes first. -/
theorem variants_eq_error_iff (value : Text) :
    (∃ why, variants value = .error why ∧ why.severity = .error) ↔ FaultComesFirst value := by
  constructor
  · rintro ⟨why, deferred, isError⟩
    by_cases none : allIn value = []
    · rw [variants_of_allIn_eq_nil none] at deferred
      split at deferred
      · rename_i some
        exact .inl ⟨none, (hasUnclosed_of_allIn none).2 some⟩
      · cases deferred
    · right
      cases read : (allIn value).mapM readNative with
      | ok calls => exact absurd isError (severity_of_mapM_eq_ok none read deferred)
      | error other =>
        obtain rfl : other = why := by
          have := (variants_of_mapM_eq_error read).symm.trans deferred
          simpa using this
        obtain ⟨front, o, back, shape, before, fails⟩ := mapM_readNative_eq_error_iff.1 read
        refine ⟨front, o, back, shape, before, ?_⟩
        rcases readNative_eq_error_iff.1 fails with ⟨e, malformed, -⟩ | ⟨c, -, -, rfl⟩
        · exact ⟨e, malformed⟩
        · cases isError
  · rintro (⟨none, unclosed⟩ | ⟨front, o, back, shape, before, e, malformed⟩)
    · refine ⟨.unclosed, ?_, rfl⟩
      rw [variants_of_allIn_eq_nil none, if_pos ((hasUnclosed_of_allIn none).1 unclosed)]
    · refine ⟨.malformed e o.fullText, variants_of_mapM_eq_error ?_, rfl⟩
      refine mapM_readNative_eq_error_iff.2 ⟨front, o, back, shape, before, ?_⟩
      exact readNative_eq_error_iff.2 (.inl ⟨e, malformed, rfl⟩)

/-- What a declaration is deferred for is its only finding. -/
theorem diagnostics_declaration (selector property value : Text) (d : Diagnostic) :
    d ∈ (declaration selector property value).diagnostics ↔
      ∃ why, variants value = .error why ∧ d = why.diagnostic selector property := by
  unfold declaration
  cases variants value <;> simp

theorem declaration_reports_error_iff (selector property value : Text) :
    (∃ d ∈ (declaration selector property value).diagnostics, d.isError = true) ↔
      FaultComesFirst value := by
  rw [← variants_eq_error_iff]
  constructor
  · rintro ⟨d, member, isError⟩
    obtain ⟨why, deferred, rfl⟩ := (diagnostics_declaration ..).1 member
    exact ⟨why, deferred, by simpa [Diagnostic.isError, Deferral.diagnostic] using isError⟩
  · rintro ⟨why, deferred, isError⟩
    refine ⟨_, (diagnostics_declaration ..).2 ⟨why, deferred, rfl⟩, ?_⟩
    simpa [Diagnostic.isError, Deferral.diagnostic] using isError

/-! ### The style sheet -/

/-- A fault is a call, so the declaration is conditional. -/
theorem FaultComesFirst.anyIn {value : Text} (h : FaultComesFirst value) :
    Occurrence.anyIn value = true := by
  rcases h with ⟨none, unclosed⟩ | ⟨front, o, back, shape, -, -⟩
  · exact (hasUnclosed_of_allIn none).1 unclosed
  · have member : o ∈ allIn value := by simp [shape]
    obtain ⟨-, isCall⟩ := (lists_allIn value).isCall o member
    exact anyIn_iff.2 ⟨o.start, isCall.starts⟩

/-- Some declaration of a rule of the style sheet has a fault that comes first. -/
def SheetReports (s : Text) : Prop :=
  ∃ i ∈ Sheet.items s, ∃ r, Sheet.readRule? i = some r ∧
    ∃ d ∈ r.declarations, FaultComesFirst d.value

/-- An item reports an error for a declaration of its rule; the finding about a block is a warning. -/
theorem item_reports_error_iff (i : Text) :
    (∃ d ∈ (item i).diagnostics, d.isError = true) ↔
      ∃ r, Sheet.readRule? i = some r ∧ ∃ d ∈ r.declarations, FaultComesFirst d.value := by
  cases read : Sheet.readRule? i with
  | none =>
    simp only [item, read]
    split <;> simp [opaqueBlock, Diagnostic.isError]
  | some r =>
    have perDeclaration : (∃ d ∈ (rule r).diagnostics, d.isError = true) ↔
        ∃ d ∈ r.declarations, FaultComesFirst d.value := by
      simp only [rule, List.mem_flatMap, List.mem_map, List.mem_filter]
      constructor
      · rintro ⟨finding, ⟨-, ⟨d, ⟨member, -⟩, rfl⟩, found⟩, isError⟩
        exact ⟨d, member, (declaration_reports_error_iff ..).1 ⟨finding, found, isError⟩⟩
      · rintro ⟨d, member, first⟩
        obtain ⟨finding, found, isError⟩ :=
          (declaration_reports_error_iff r.selector d.property _).2 first
        exact ⟨finding, ⟨_, ⟨d, ⟨member, first.anyIn⟩, rfl⟩, found⟩, isError⟩
    cases conditional : r.declarations.any isConditional with
    | true => simpa [item, read, conditional] using perDeclaration
    | false =>
      refine iff_of_false (by simp [item, read, conditional]) ?_
      rintro ⟨r', same, d, member, first⟩
      cases same
      exact List.any_eq_false.1 conditional d member first.anyIn

theorem sheet_reports_error_iff (shorten : Bool) (s : Text) :
    (∃ d ∈ (sheet shorten s).diagnostics, d.isError = true) ↔
      hasToken s = true ∧ SheetReports s := by
  cases token : hasToken s with
  | false => simp [sheet, token]
  | true =>
    simp only [sheet, token, Bool.not_true, Bool.false_eq_true, if_false, List.mem_flatMap,
      List.mem_map, true_and, SheetReports, ← item_reports_error_iff]
    constructor
    · rintro ⟨d, ⟨-, ⟨i, member, rfl⟩, found⟩, isError⟩
      exact ⟨i, member, d, found, isError⟩
    · rintro ⟨i, member, d, found, isError⟩
      exact ⟨d, ⟨_, ⟨i, member, rfl⟩, found⟩, isError⟩

/-! ### The command -/

/-- A file tree has a style sheet under a name. -/
structure HasSheet (tree : Cli.FileTree) (file source : Text) : Prop where
  nameable : '\x00' ∉ file
  isFile : tree.kind? file = some .file
  decoded : (tree.read file).toOption.bind Cli.decodeFile = some source

theorem exitCode_checkSheet (verbose : Bool) (name source : Text) :
    (Cli.checkSheet verbose name source).exitCode =
      if (sheet false source).diagnostics.any (·.isError) then 1 else 0 := by
  have count : (sheet false source).diagnostics.countP (·.isError) = 0 ↔
      (sheet false source).diagnostics.any (·.isError) = false := by
    simp [List.countP_eq_zero]
  simp only [Cli.checkSheet]
  by_cases none : (sheet false source).diagnostics = []
  · simp [none]
  · cases found : (sheet false source).diagnostics.any (·.isError) with
    | false => simp [none, count.2 found]
    | true =>
      have some : (sheet false source).diagnostics.countP (·.isError) ≠ 0 := by simp [count, found]
      simp [none, some]

/-- Checking a style sheet that is there is checking its text. -/
theorem runCheck_eq {tree : Cli.FileTree} {file source : Text} (h : HasSheet tree file source)
    (verbose : Bool) :
    (Cli.runCheck Cli.FileTree.fileSystem verbose [file]).run tree =
      (Cli.checkSheet verbose (Cli.Path.lastComponent file) source, tree) := by
  simp [Cli.runCheck, Cli.checkFile, Cli.FileTree.fileSystem, Cli.refuseExtra?, h.nameable, h.isFile,
    h.decoded]
  rfl

/-- A declaration reports an error if its fault comes first, and then it is faulty. The other way round a
    fault comes first if no call needs computed styles and no unclosed call stands among closed ones that
    can be read. The command fails on a style sheet that is there just when some declaration reports an
    error, unless the style sheet nowhere has the letters of a call in a row. -/
theorem errors_reported (selector property value : Text) :
    ((∃ d ∈ (declaration selector property value).diagnostics, d.isError = true) ↔
      FaultComesFirst value) ∧
    (FaultComesFirst value → IsFaulty value) ∧
    ((∀ o ∈ allIn value, IsMalformed o ∨ IsExpandable o) →
      (HasUnclosed value → allIn value = [] ∨ ∃ o ∈ allIn value, IsMalformed o) →
      (IsFaulty value → FaultComesFirst value)) ∧
    ∀ (tree : Cli.FileTree) (file source : Text) (verbose : Bool), HasSheet tree file source →
      let output := ((Cli.runCheck Cli.FileTree.fileSystem verbose [file]).run tree).1
      output.crash = none ∧ (output.exitCode = 0 ∨ output.exitCode = 1) ∧
        (output.exitCode = 1 ↔ hasToken source = true ∧ SheetReports source) := by
  refine ⟨declaration_reports_error_iff selector property value, FaultComesFirst.isFaulty, ?_, ?_⟩
  · rintro readable notAmong (malformed | unclosed)
    · exact faultComesFirst_of_malformed readable malformed
    · rcases notAmong unclosed with none | malformed
      · exact .inl ⟨none, unclosed⟩
      · exact faultComesFirst_of_malformed readable malformed
  · intro tree file source verbose h output
    have same : output = Cli.checkSheet verbose (Cli.Path.lastComponent file) source := by
      simp only [output, runCheck_eq h]
    have code := exitCode_checkSheet verbose (Cli.Path.lastComponent file) source
    rw [← same] at code
    refine ⟨?_, ?_, ?_⟩
    · rw [same]
      unfold Cli.checkSheet
      dsimp only
      split <;> rfl
    · rw [code]
      split <;> simp
    · rw [code, ← sheet_reports_error_iff false, ← List.any_eq_true]
      split <;> simp_all

/-- A call without a colon behind a call that is in order. -/
def faultBehindMedia : Text :=
  "if(media(a): x; else: y) if(b)".toList

/-- A style sheet whose only declaration has the given value. -/
def sheetWith (value : Text) : Text :=
  declarationRule ".a".toList "color".toList value

/-- A file tree with that style sheet as its only file. -/
def treeWith (value : Text) : Cli.FileTree :=
  Cli.FileTree.addFile "a.css".toList (String.ofList (sheetWith value)).toUTF8 {}

/-- The fault behind a media query is reported, and the command fails. -/
theorem errors_reported_behindMedia :
    FaultComesFirst faultBehindMedia ∧
    (∃ d ∈ (declaration ".a".toList "color".toList faultBehindMedia).diagnostics, d.isError = true) ∧
    ((Cli.runCheck Cli.FileTree.fileSystem false ["a.css".toList]).run
      (treeWith faultBehindMedia)).1.exitCode = 1 := by
  have malformed : IsMalformed ⟨25, "b".toList⟩ := ⟨.missingColon "b".toList, by decide +kernel⟩
  have expandable : IsExpandable ⟨0, "media(a): x; else: y".toList⟩ :=
    ⟨⟨[⟨.media, "a".toList, "x".toList⟩], some "y".toList⟩, by decide +kernel⟩
  have calls : allIn faultBehindMedia =
      [⟨0, "media(a): x; else: y".toList⟩, ⟨25, "b".toList⟩] := by decide +kernel
  have readable : ∀ o ∈ allIn faultBehindMedia, IsMalformed o ∨ IsExpandable o := by
    simp only [calls, List.forall_mem_cons]
    exact ⟨.inr expandable, .inl malformed, fun o member => absurd member List.not_mem_nil⟩
  have some : ∃ o ∈ allIn faultBehindMedia, IsMalformed o := ⟨_, by simp [calls], malformed⟩
  have there : HasSheet (treeWith faultBehindMedia) "a.css".toList (sheetWith faultBehindMedia) :=
    ⟨by decide +kernel, by decide +kernel, by decide +kernel⟩
  obtain ⟨reports, -, complete, command⟩ :=
    errors_reported ".a".toList "color".toList faultBehindMedia
  have first := complete readable (fun _ => .inr some) (.inl some)
  have listed : SheetReports (sheetWith faultBehindMedia) :=
    ⟨sheetWith faultBehindMedia, by decide +kernel,
      ⟨".a".toList, [⟨"color".toList, faultBehindMedia⟩], sheetWith faultBehindMedia⟩,
      by decide +kernel, _, List.mem_singleton_self _, first⟩
  obtain ⟨-, -, fails⟩ := command _ _ _ false there
  exact ⟨first, reports.2 first, fails.2 ⟨by decide +kernel, listed⟩⟩

/-- Faults that are passed over: a call without a colon is reported in front of a call that needs
    computed styles and not behind it; an unclosed call is not reported behind a closed one, and nothing
    at all is found if the value that is put in front of it makes it look like the end of a name. The
    command succeeds on all three. -/
theorem faults_hidden :
    let behindStyle := "if(style(--a): x; else: y) if(b)".toList
    let beforeStyle := "if(b) if(style(--a): x; else: y)".toList
    let behindClosed := "if(media(a): x; else: y) if(".toList
    let behindName := "if(media(a): x; else: y)if(".toList
    let findings (value : Text) :=
      (declaration ".a".toList "color".toList value).diagnostics.map fun d => (d.code, d.severity)
    let exitCode (value : Text) :=
      ((Cli.runCheck Cli.FileTree.fileSystem false ["a.css".toList]).run (treeWith value)).1.exitCode
    (IsFaulty behindStyle ∧ findings behindStyle = [("runtime_condition", .info)] ∧
      exitCode behindStyle = 0) ∧
    (IsFaulty beforeStyle ∧ findings beforeStyle = [("malformed_expression", .error)] ∧
      exitCode beforeStyle = 1) ∧
    (IsFaulty behindClosed ∧ findings behindClosed = [("nested_if", .info)] ∧
      exitCode behindClosed = 0) ∧
    (IsFaulty behindName ∧ findings behindName = [] ∧ exitCode behindName = 0) := by
  have unread : Conditional.parse .strict "b".toList = .error (.missingColon "b".toList) := by
    decide +kernel
  have malformed (pos : Nat) : IsMalformed ⟨pos, "b".toList⟩ := ⟨_, unread⟩
  refine ⟨⟨.inl ⟨_, ?_, malformed 27⟩, by decide +kernel, by decide +kernel⟩,
    ⟨.inl ⟨_, ?_, malformed 0⟩, by decide +kernel, by decide +kernel⟩,
    ⟨.inr ⟨25, isCandidate_iff.1 ?_, ?_⟩, by decide +kernel, by decide +kernel⟩,
    ⟨.inr ⟨24, isCandidate_iff.1 ?_, ?_⟩, by decide +kernel, by decide +kernel⟩⟩
  all_goals decide +kernel

end Expand
end CondCss
