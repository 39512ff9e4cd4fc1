import CodeAtlas.Proofs.Build.RefreshRun

set_option autoImplicit false

/-! # Parsers that fail

A parser can fail on a file, and it can fail when it is asked whether it parses the file. The first is contained: the
registry hands out an empty output with the message, and the report of a build lists the file. Only where no text can be
made of what the parser threw is there no message, and then the parse fails. The second is not contained: where no parser
claimed the extension, the parsers are asked in the order of registration, and the failure of one of them is that of the
whole parse and of the whole build. `build_contains_failures_iff` puts this together. -/

namespace CodeAtlas

open CodeAtlas.Scan CodeAtlas.Path

/-- Going through a list, one is stopped at its head, or passes it and is stopped in the rest. -/
theorem exists_split_cons_iff {α : Type} {P Q : α → Prop} {x : α} {l : List α} :
    (∃ before y after, x :: l = before ++ y :: after ∧ (∀ z ∈ before, P z) ∧ Q y) ↔
      Q x ∨ P x ∧ ∃ before y after, l = before ++ y :: after ∧ (∀ z ∈ before, P z) ∧ Q y := by
  constructor
  · rintro ⟨before, y, after, hl, hbefore, hy⟩
    cases before with
    | nil =>
        obtain ⟨rfl, -⟩ := List.cons.inj hl
        exact .inl hy
    | cons z before =>
        obtain ⟨rfl, hrest⟩ := List.cons.inj hl
        exact .inr ⟨hbefore _ (List.mem_cons_self ..), before, y, after, hrest,
          fun z hz => hbefore z (List.mem_cons_of_mem _ hz), hy⟩
  · rintro (hx | ⟨hx, before, y, after, rfl, hbefore, hy⟩)
    · exact ⟨[], x, l, rfl, by simp, hx⟩
    · exact ⟨x :: before, y, after, rfl, List.forall_mem_cons.2 ⟨hx, hbefore⟩, hy⟩

namespace Registry

/-- No parser claimed the extension of a file, and of the parsers that are asked for it one fails before any of them
    says yes. -/
def ProbeFails (registry : Registry) (path : String) (fault : Fault) : Prop :=
  registry.byExtension.get? (extension path) = none ∧
    ∃ before p after, registry.byLanguage.values = before ++ p :: after ∧
      (∀ q ∈ before, q.canParse path = .ok false) ∧ p.canParse path = .error fault

/-- The parser of a file throws something of which no text can be made. -/
def ThrowsUnsayable (registry : Registry) (disk : FileTree) (path : String) (root : Option String) (fault : Fault) :
    Prop :=
  ∃ p thrown, registry.parserFor path = .ok (some p) ∧ p.parse disk path root = .error thrown ∧
    thrown.message = .error fault

/-- The two ways in which a parse of a file fails. -/
def Rejects (registry : Registry) (disk : FileTree) (path : String) (root : Option String) (fault : Fault) : Prop :=
  registry.ProbeFails path fault ∨ registry.ThrowsUnsayable disk path root fault

/-- What a parse of a file comes to: nothing where it has no parser, else what its parser gives, or nothing but the
    message of what its parser throws. -/
inductive Yields (registry : Registry) (disk : FileTree) (path : String) (root : Option String) :
    ParseOutput → Prop where
  | unclaimed (none : registry.parserFor path = .ok none) : Yields registry disk path root (.failed [])
  | parsed {p : Parser} {output : ParseOutput} (claimed : registry.parserFor path = .ok (some p))
      (given : p.parse disk path root = .ok output) : Yields registry disk path root output
  | contained {p : Parser} {thrown : Thrown} {message : String} (claimed : registry.parserFor path = .ok (some p))
      (failed : p.parse disk path root = .error thrown) (said : thrown.message = .ok message) :
      Yields registry disk path root (.failed [message])

theorem firstAble_eq_error_iff (path : String) (fault : Fault) (l : List Parser) :
    firstAble path l = .error fault ↔ ∃ before p after, l = before ++ p :: after ∧
      (∀ q ∈ before, q.canParse path = .ok false) ∧ p.canParse path = .error fault := by
  induction l with
  | nil => simp [firstAble]
  | cons p rest ih =>
      rw [exists_split_cons_iff]
      cases hp : p.canParse path with
      | error f => simp [firstAble, hp, bind, Except.bind]
      | ok able =>
          cases able with
          | true => simp [firstAble, hp, bind, Except.bind, pure, Except.pure]
          | false => simpa [firstAble, hp, bind, Except.bind] using ih

theorem parserFor_eq_error_iff (registry : Registry) (path : String) (fault : Fault) :
    registry.parserFor path = .error fault ↔ registry.ProbeFails path fault := by
  unfold parserFor ProbeFails
  cases hclaimed : registry.byExtension.get? (extension path) with
  | some p => simp
  | none => simpa using firstAble_eq_error_iff path fault _

/-- A parse that got as far as its parser hands out what that gave, or the message of what it threw. -/
theorem outputOf_eq_error_iff (given : Except Thrown ParseOutput) (fault : Fault) :
    outputOf given = .error fault ↔ ∃ thrown, given = .error thrown ∧ thrown.message = .error fault := by
  cases given with
  | ok output => simp [outputOf]
  | error thrown => cases hsaid : thrown.message <;> simp [outputOf, hsaid, Except.map]

theorem outputOf_eq_ok_iff (given : Except Thrown ParseOutput) (output : ParseOutput) :
    outputOf given = .ok output ↔ given = .ok output ∨
      ∃ thrown message, given = .error thrown ∧ thrown.message = .ok message ∧ output = .failed [message] := by
  cases given with
  | ok o => simp [outputOf]
  | error thrown => cases hsaid : thrown.message <;> simp [outputOf, hsaid, Except.map, eq_comm]

theorem parse_eq_error_iff (registry : Registry) (disk : FileTree) (path : String) (root : Option String)
    (fault : Fault) : registry.parse disk path root = .error fault ↔ registry.Rejects disk path root fault := by
  rw [Rejects, ← parserFor_eq_error_iff, ThrowsUnsayable, parse]
  rcases registry.parserFor path with f | _ | p
  · simp [bind, Except.bind]
  · simp [bind, Except.bind, pure, Except.pure]
  · simp [bind, Except.bind, outputOf_eq_error_iff]

theorem parse_eq_ok_iff (registry : Registry) (disk : FileTree) (path : String) (root : Option String)
    (output : ParseOutput) : registry.parse disk path root = .ok output ↔ registry.Yields disk path root output := by
  constructor
  · intro h
    unfold parse at h
    cases hparser : registry.parserFor path with
    | error f => simp [hparser, bind, Except.bind] at h
    | ok parser =>
        cases parser with
        | none =>
            obtain rfl : ParseOutput.failed [] = output := by
              simpa [hparser, bind, Except.bind, pure, Except.pure] using h
            exact .unclaimed hparser
        | some p =>
            have houtput : outputOf (p.parse disk path root) = .ok output := by
              simpa [hparser, bind, Except.bind] using h
            rcases (outputOf_eq_ok_iff ..).1 houtput with hgiven | ⟨thrown, message, hfailed, hsaid, rfl⟩
            · exact .parsed hparser hgiven
            · exact .contained hparser hfailed hsaid
  · rintro (hnone | ⟨hsome, hgiven⟩ | ⟨hsome, hfailed, hsaid⟩)
    · simp [parse, hnone, bind, Except.bind, pure, Except.pure]
    · simp [parse, hsome, hgiven, outputOf, bind, Except.bind]
    · simp [parse, hsome, hfailed, outputOf, hsaid, bind, Except.bind, Except.map]

theorem Yields.not_rejects {registry : Registry} {disk : FileTree} {path : String} {root : Option String}
    {output : ParseOutput} (h : registry.Yields disk path root output) (fault : Fault) :
    ¬ registry.Rejects disk path root fault := by
  intro hrejects
  rw [← parse_eq_ok_iff] at h
  rw [← parse_eq_error_iff, h] at hrejects
  exact absurd hrejects (by simp)

end Registry

namespace Build

/-! ## The report -/

/-- The entry of a report for an output, if it has errors. -/
def failureOf (file : ScannedFile) (output : ParseOutput) : Option FileFailure :=
  if output.errors = [] then none else some ⟨file.path, output.errors⟩

/-- The entry of a report for a file, if its parser fails or reports errors. -/
def failure? (registry : Registry) (disk : FileTree) (root : String) (file : ScannedFile) : Option FileFailure :=
  match registry.parse disk file.absolutePath (some (absolute root)) with
  | .ok output => failureOf file output
  | .error _ => none

/-- A file whose parser throws something with a text is listed with that text. -/
theorem failure?_of_said {registry : Registry} {disk : FileTree} {root : String} {file : ScannedFile} {p : Parser}
    {thrown : Thrown} {message : String} (hclaimed : registry.parserFor file.absolutePath = .ok (some p))
    (hfailed : p.parse disk file.absolutePath (some (absolute root)) = .error thrown)
    (hsaid : thrown.message = .ok message) : failure? registry disk root file = some ⟨file.path, [message]⟩ := by
  rw [failure?, (registry.parse_eq_ok_iff ..).2 (.contained hclaimed hfailed hsaid)]
  rfl

/-- What a report says of failures: the files, and how many there are. -/
def failed (report : BuildReport) : List FileFailure × Nat := (report.failures, report.filesFailed)

theorem failed_foldl {α : Type} {step : Graph × BuildReport → α → Graph × BuildReport}
    (hstep : ∀ s x, failed (step s x).2 = failed s.2) (l : List α) (s : Graph × BuildReport) :
    failed (l.foldl step s).2 = failed s.2 := by
  induction l generalizing s with
  | nil => rfl
  | cons x rest ih => rw [List.foldl_cons, ih, hstep]

theorem failed_mergeRelationship (s : Graph × BuildReport) (r : Relationship) :
    failed (mergeRelationship s r).2 = failed s.2 := by
  unfold mergeRelationship
  split <;> rfl

/-- A merge adds the entry of its file. -/
theorem failed_merge (s : Graph × BuildReport) (file : ScannedFile) (output : ParseOutput) :
    failed (merge s file output).2 = (s.2.failures ++ (failureOf file output).toList,
      s.2.filesFailed + (failureOf file output).toList.length) := by
  obtain ⟨g, report⟩ := s
  by_cases herrors : output.errors = []
  · have hfail : failureOf file output = none := if_pos herrors
    simp only [merge, herrors, ne_eq, not_true_eq_false, if_false, hfail]
    rw [failed_foldl failed_mergeRelationship]
    simp [failed]
  · have hfail : failureOf file output = some ⟨file.path, output.errors⟩ := if_neg herrors
    simp [merge, herrors, hfail, failed]

theorem failed_merges (outputs : List (ScannedFile × ParseOutput)) (s : Graph × BuildReport) :
    failed (outputs.foldl (fun s o => merge s o.1 o.2) s).2
      = (s.2.failures ++ outputs.filterMap fun o => failureOf o.1 o.2,
        s.2.filesFailed + (outputs.filterMap fun o => failureOf o.1 o.2).length) := by
  induction outputs generalizing s with
  | nil => simp [failed]
  | cons o rest ih =>
      obtain ⟨hfailures, hcount⟩ := Prod.mk.inj (failed_merge s o.1 o.2)
      rw [List.foldl_cons, ih, hfailures, hcount, List.filterMap_cons]
      cases failureOf o.1 o.2 <;> simp [Nat.add_assoc, Nat.add_comm]

theorem failed_discoverInto (extensions : List String) (root : String) (s : Graph × BuildReport) :
    failed (discoverInto extensions root s).2 = failed s.2 := by
  refine failed_foldl (fun s r => ?_) _ s
  obtain ⟨g, report⟩ := s
  cases hlink : g.link r <;> simp only [hlink, failed]

/-! ## Parsing all files -/

/-- Of a list of files, one cannot be given its parser, and it is the first. -/
def FirstLost (registry : Registry) (files : List ScannedFile) (fault : Fault) : Prop :=
  ∃ before file after, files = before ++ file :: after ∧
    (∀ f ∈ before, ∀ fault, ¬ registry.ProbeFails f.absolutePath fault) ∧ registry.ProbeFails file.absolutePath fault

theorem firstLost_cons_iff {registry : Registry} {file : ScannedFile} {rest : List ScannedFile} {fault : Fault} :
    FirstLost registry (file :: rest) fault ↔ registry.ProbeFails file.absolutePath fault ∨
      (∀ fault, ¬ registry.ProbeFails file.absolutePath fault) ∧ FirstLost registry rest fault :=
  exists_split_cons_iff

theorem firstLost_singleton_iff {registry : Registry} {file : ScannedFile} {fault : Fault} :
    FirstLost registry [file] fault ↔ registry.ProbeFails file.absolutePath fault := by
  rw [firstLost_cons_iff]
  refine or_iff_left ?_
  rintro ⟨-, before, _, after, hnil, -⟩
  exact absurd hnil (by simp)

/-- The fault of a file of a list, all of which were given their parsers. -/
def ThrownAmong (registry : Registry) (disk : FileTree) (root : String) (files : List ScannedFile) (fault : Fault) :
    Prop :=
  (∀ file ∈ files, ∀ fault, ¬ registry.ProbeFails file.absolutePath fault) ∧
    ∃ file ∈ files, registry.ThrowsUnsayable disk file.absolutePath (some (absolute root)) fault

section

variable {registry : Registry} {disk : FileTree} {root : String}

/-- The outputs of a list of files, from those of the files after the first. -/
theorem parseAll_cons (file : ScannedFile) (rest : List ScannedFile) {output : ParseOutput}
    (hparse : registry.parse disk file.absolutePath (some (absolute root)) = .ok output) :
    ∃ own : List (ScannedFile × ParseOutput),
      parseAll registry disk (absolute root) (file :: rest)
        = (parseAll registry disk (absolute root) rest).map (own ++ ·) ∧
      own.filterMap (fun o => failureOf o.1 o.2) = (failure? registry disk root file).toList := by
  cases hparser : registry.parserFor file.absolutePath with
  | error fault =>
      rw [parse_eq_error_of_parserFor hparser] at hparse
      exact absurd hparse (by simp)
  | ok parser =>
      cases parser with
      | none =>
          have hempty := @parse_eq_ok_of_unclaimed registry disk _ hparser (some (absolute root))
          refine ⟨[], ?_, ?_⟩
          · cases hrest : parseAll registry disk (absolute root) rest <;>
              simp [parseAll, hparser, hrest, bind, Except.bind, pure, Except.pure, Except.map]
          · simp [failure?, hempty, failureOf, ParseOutput.failed]
      | some p =>
          refine ⟨[(file, output)], ?_, ?_⟩
          · cases hrest : parseAll registry disk (absolute root) rest <;>
              simp [parseAll, hparser, hrest, hparse, bind, Except.bind, pure, Except.pure, Except.map]
          · simp only [failure?, hparse, List.filterMap_cons, List.filterMap_nil]
            cases failureOf file output <;> rfl

/-- Files that were all parsed were all given their parsers. -/
theorem not_probeFails_of_parseAll {files : List ScannedFile} {outputs : List (ScannedFile × ParseOutput)}
    (h : parseAll registry disk (absolute root) files = .ok outputs) :
    ∀ file ∈ files, ∀ fault, ¬ registry.ProbeFails file.absolutePath fault := by
  intro file hfile fault hlost
  rcases parseAll_cases registry disk root files with ⟨hparses, -⟩ | ⟨-, f, hf⟩
  · obtain ⟨output, houtput⟩ := hparses file hfile
    rw [(registry.parse_eq_error_iff ..).2 (.inl hlost)] at houtput
    exact absurd houtput (by simp)
  · rw [h] at hf
    exact absurd hf (by simp)

/-- If all files after the first can be parsed, the failure of parsing all of them is that of the first. -/
theorem parse_eq_error_of_parseAll {file : ScannedFile} {rest : List ScannedFile} {parser : Option Parser}
    {others : List (ScannedFile × ParseOutput)} {fault : Fault}
    (hparser : registry.parserFor file.absolutePath = .ok parser)
    (hrest : parseAll registry disk (absolute root) rest = .ok others)
    (h : parseAll registry disk (absolute root) (file :: rest) = .error fault) :
    registry.parse disk file.absolutePath (some (absolute root)) = .error fault := by
  cases parser with
  | none => simp [parseAll, hparser, hrest, bind, Except.bind, pure, Except.pure] at h
  | some p =>
      cases hparse : registry.parse disk file.absolutePath (some (absolute root)) with
      | error f => simpa [parseAll, hparser, hrest, hparse, bind, Except.bind] using h
      | ok output => simp [parseAll, hparser, hrest, hparse, bind, Except.bind, pure, Except.pure] at h

/-- Where parsing all files fails, the first of them that cannot be given its parser says how. If each is given one,
    what is thrown on one of them does. -/
theorem firstLost_or_thrownAmong {files : List ScannedFile} {fault : Fault}
    (h : parseAll registry disk (absolute root) files = .error fault) :
    FirstLost registry files fault ∨ ThrownAmong registry disk root files fault := by
  induction files with
  | nil => simp [parseAll] at h
  | cons file rest ih =>
      cases hparser : registry.parserFor file.absolutePath with
      | error f =>
          obtain rfl : f = fault := by simpa [parseAll, hparser, bind, Except.bind] using h
          exact .inl (firstLost_cons_iff.2 (.inl ((Registry.parserFor_eq_error_iff ..).1 hparser)))
      | ok parser =>
          have hfound : ∀ f, ¬ registry.ProbeFails file.absolutePath f := fun f hf => by
            rw [(Registry.parserFor_eq_error_iff ..).2 hf] at hparser
            exact absurd hparser (by simp)
          cases hrest : parseAll registry disk (absolute root) rest with
          | error f =>
              obtain rfl : f = fault := by simpa [parseAll, hparser, hrest, bind, Except.bind] using h
              rcases ih hrest with hlost | ⟨hall, g, hg, hthrown⟩
              · exact .inl (firstLost_cons_iff.2 (.inr ⟨hfound, hlost⟩))
              · exact .inr ⟨List.forall_mem_cons.2 ⟨hfound, hall⟩, g, List.mem_cons_of_mem _ hg, hthrown⟩
          | ok others =>
              have hown := (registry.parse_eq_error_iff ..).1 (parse_eq_error_of_parseAll hparser hrest h)
              exact .inr ⟨List.forall_mem_cons.2 ⟨hfound, not_probeFails_of_parseAll hrest⟩, file,
                List.mem_cons_self .., hown.resolve_left (hfound fault)⟩

/-- The outputs have the failures of their files, in the order of the files. -/
theorem failures_parseAll {files : List ScannedFile} {outputs : List (ScannedFile × ParseOutput)}
    (h : parseAll registry disk (absolute root) files = .ok outputs) :
    outputs.filterMap (fun o => failureOf o.1 o.2) = files.filterMap (failure? registry disk root) := by
  rcases parseAll_cases registry disk root files with ⟨hparses, -⟩ | ⟨-, f, hf⟩
  case inr =>
    rw [h] at hf
    exact absurd hf (by simp)
  induction files generalizing outputs with
  | nil =>
      obtain rfl : [] = outputs := by simpa [parseAll] using h
      rfl
  | cons file rest ih =>
      obtain ⟨⟨o, ho⟩, hparses⟩ := (parses_cons_iff ..).1 hparses
      obtain ⟨own, hcons, hown⟩ := parseAll_cons file rest ho
      rw [hcons] at h
      cases hrest : parseAll registry disk (absolute root) rest with
      | error f => simp [hrest, Except.map] at h
      | ok others =>
          obtain rfl : own ++ others = outputs := by simpa [hrest, Except.map] using h
          rw [List.filterMap_append, hown, ih hrest hparses, List.filterMap_cons]
          cases failure? registry disk root file <;> rfl

/-- All files have outputs exactly if none is refused. -/
theorem parses_iff_not_rejects (files : List ScannedFile) : Parses registry disk root files ↔
    ∀ file ∈ files, ∀ fault, ¬ registry.Rejects disk file.absolutePath (some (absolute root)) fault := by
  refine forall₂_congr fun file _ => ?_
  simp only [← Registry.parse_eq_error_iff]
  cases registry.parse disk file.absolutePath (some (absolute root)) <;> simp

/-! ## Whole builds -/

/-- If the last phases of a build succeed, the graph is frozen and the report has the failures of the files. -/
theorem failed_finish {files : List ScannedFile} {s : Graph × BuildReport} {res : BuildResult}
    (h : finish registry disk (absolute root) files s = .ok res) :
    res.graph.frozen = true ∧ failed res.report = (s.2.failures ++ files.filterMap (failure? registry disk root),
      s.2.filesFailed + (files.filterMap (failure? registry disk root)).length) := by
  cases hout : parseAll registry disk (absolute root) files with
  | error f => simp [finish, parseInto, hout, Except.map] at h
  | ok outputs =>
      simp only [finish, parseInto, hout, Except.map, Except.ok.injEq] at h
      subst h
      refine ⟨rfl, ?_⟩
      rw [failed_discoverInto, failed_merges, failures_parseAll hout]

/-- The ways in which a build fails: a pattern of the ignore file does not compile, or a scanned file cannot be given
    its parser, and then the first such file says how, or of what is thrown on one of the files no text can be made. -/
inductive Loses (registry : Registry) (scanner : Scanner) (disk : FileTree) (root : String) (fault : Fault) : Prop where
  | pattern (refused : scan scanner disk root = .error fault)
  | asked {s : ScanResult} (scanned : scan scanner disk root = .ok s) (lost : FirstLost registry s.files fault)
  | thrown {s : ScanResult} (scanned : scan scanner disk root = .ok s)
      (among : ThrownAmong registry disk root s.files fault)

theorem loses_of_build_eq_error {scanner : Scanner} {fault : Fault}
    (h : build registry scanner disk root = .error fault) : Loses registry scanner disk root fault := by
  rw [build_eq_scan] at h
  cases hscan : scan scanner disk root with
  | error f =>
      obtain rfl : f = fault := by simpa [hscan, bind, Except.bind] using h
      exact .pattern hscan
  | ok s =>
      have hfinish : (parseAll registry disk (absolute root) s.files) = .error fault := by
        cases hout : parseAll registry disk (absolute root) s.files with
        | error f => simpa [hscan, bind, Except.bind, buildScanned, finish, parseInto, hout, Except.map] using h
        | ok outputs => simp [hscan, bind, Except.bind, buildScanned, finish, parseInto, hout, Except.map] at h
      exact (firstLost_or_thrownAmong hfinish).elim (.asked hscan) (.thrown hscan)

end

/-- **A build contains the failures of parsers,** except those of asking for a parser and those of which no text can be
    made. For all registries, scanners, trees and roots: a parse comes to what the file's parser gives or to one message,
    or fails in one of these two ways; a builder at rest builds a root exactly if the patterns of the ignore file compile
    and no scanned file fails so; how it fails is settled by the patterns, by the first file that cannot be given its
    parser or by one of which no text can be made; and what it builds is a frozen graph with a report that lists, in the
    order of the scan, the files whose parsers failed. -/
theorem build_contains_failures_iff (b : Builder) (hfree : b.isBusy = false) (disk : FileTree) (root : String) :
    (∀ path base fault, b.registry.parse disk path base = .error fault ↔ b.registry.Rejects disk path base fault) ∧
    (∀ path base output, b.registry.parse disk path base = .ok output ↔ b.registry.Yields disk path base output) ∧
    ((∃ res, (b.build disk root).2 = .ok res) ↔ ∃ s, scan b.scanner disk root = .ok s ∧
      ∀ file ∈ s.files, ∀ fault, ¬ b.registry.Rejects disk file.absolutePath (some (absolute root)) fault) ∧
    (∀ fault, (b.build disk root).2 = .error fault → Loses b.registry b.scanner disk root fault) ∧
    ∀ res, (b.build disk root).2 = .ok res → res.graph.frozen = true ∧ ∃ s, scan b.scanner disk root = .ok s ∧
      res.report.failures = s.files.filterMap (failure? b.registry disk root) ∧
      res.report.filesFailed = res.report.failures.length := by
  have hrun : (b.build disk root).2 = build b.registry b.scanner disk root := by
    rw [Builder.build, Builder.run, if_neg (by simp [hfree])]
  rw [hrun]
  refine ⟨b.registry.parse_eq_error_iff disk, b.registry.parse_eq_ok_iff disk, ?_,
    fun fault => loses_of_build_eq_error, fun res hres => ?_⟩
  · have hbuildable : Buildable b.registry b.scanner disk root ↔ ∃ s, scan b.scanner disk root = .ok s ∧
        ∀ file ∈ s.files, ∀ fault, ¬ b.registry.Rejects disk file.absolutePath (some (absolute root)) fault := by
      simp only [scan_eq_ok_iff, ← parses_iff_not_rejects, Buildable]
      constructor
      · rintro ⟨hcompiles, hparses⟩
        exact ⟨_, ⟨hcompiles, rfl⟩, hparses⟩
      · rintro ⟨s, ⟨hcompiles, rfl⟩, hparses⟩
        exact ⟨hcompiles, hparses⟩
    rw [← hbuildable]
    rcases build_cases b.registry b.scanner disk root with ⟨h, res, hres, -⟩ | ⟨h, f, hf⟩
    · exact iff_of_true ⟨res, hres⟩ h
    · exact iff_of_false (by simp [hf]) h
  · rw [build_eq_scan] at hres
    cases hscan : scan b.scanner disk root with
    | error f => simp [hscan, bind, Except.bind] at hres
    | ok s =>
        simp only [hscan, bind, Except.bind, buildScanned] at hres
        obtain ⟨hfrozen, hfailed⟩ := failed_finish hres
        obtain ⟨hfailures, hcount⟩ := Prod.mk.inj hfailed
        exact ⟨hfrozen, s, rfl, by simpa using hfailures, by rw [hcount, hfailures]; simp⟩

/-- A parser that throws on every file, and when it is asked for one. -/
def brokenParser (thrown : Thrown) : Parser where
  language := "broken"
  extensions := [".py"]
  canParse _ := .error (.failure "asked")
  parse _ _ _ := .error thrown
  supportedKinds := []

/-- A builder with that parser alone, for the files of one extension. -/
def brokenBuilder (thrown : Thrown) (extension : String) : Builder where
  registry := Registry.empty.register "broken" (brokenParser thrown)
  scanner := scannerFor extension
  phase := .idle

/-- A bare object, of which no text can be made. -/
def bareObject : Thrown := .value (.error (.failure "Cannot convert object to primitive value"))

/-- A disk of one file whose extension no parser claims. -/
def noteDisk : FileTree := diskOf [("note.txt", .file "a".toUTF8)]

theorem brokenBuilder_parserFor (thrown : Thrown) {ext path : String} (h : extension path = ".py") :
    (brokenBuilder thrown ext).registry.parserFor path = .ok (some (brokenParser thrown)) := by
  simp [brokenBuilder, brokenParser, Registry.register, Registry.empty, Registry.parserFor, h, lower_py]

theorem scan_packageDisk : ∃ s, scan (scannerFor ".py") packageDisk "/r" = .ok s ∧
    s.files = [scannedFile "/r" "a.py" 4, scannedFile "/r" "util/__init__.py" 0] := by
  refine ⟨_, (scan_eq_ok_iff ..).2 ⟨compiles_of_unasked rfl packageDisk, rfl⟩, ?_⟩
  rw [scanned_files readable_packageDisk.wf]
  exact congrArg (List.filterMap (Find.file? (absolute "/r"))) packageDisk_scanned.1

theorem scan_noteDisk : ∃ s, scan (scannerFor ".txt") noteDisk "/r" = .ok s ∧
    s.files = [scannedFile "/r" "note.txt" 1] := by
  have hwf : noteDisk.WellFormed := wellFormed_diskOf (.folder (by decide) (by decide) (by simpa using .file _))
  have hfinds : findsOf (scannerFor ".txt") noteDisk "/r" = [⟨"note.txt", some 1⟩] := by decide +kernel
  refine ⟨_, (scan_eq_ok_iff ..).2 ⟨compiles_of_unasked rfl noteDisk, rfl⟩, ?_⟩
  rw [scanned_files hwf, hfinds]
  rfl

theorem extension_packageDisk : ∀ file ∈ [scannedFile "/r" "a.py" 4, scannedFile "/r" "util/__init__.py" 0],
    extension file.absolutePath = ".py" := by
  decide +kernel

theorem brokenBuilder_probeFails_iff (thrown : Thrown) (fault : Fault) :
    (brokenBuilder thrown ".txt").registry.ProbeFails (scannedFile "/r" "note.txt" 1).absolutePath fault ↔
      fault = .failure "asked" := by
  have hext : extension (scannedFile "/r" "note.txt" 1).absolutePath = ".txt" := by decide +kernel
  have hasked : (brokenBuilder thrown ".txt").registry.ProbeFails (scannedFile "/r" "note.txt" 1).absolutePath
      (.failure "asked") := by
    refine ⟨?_, [], brokenParser thrown, [], rfl, by simp, rfl⟩
    rw [hext]
    rfl
  refine ⟨fun h => ?_, fun h => h ▸ hasked⟩
  rw [← Registry.parserFor_eq_error_iff] at h hasked
  exact Except.error.inj (h.symm.trans hasked)

/-- What is thrown on the files of the package is said in the report if it has a text. If it has none, or where the
    parser has to be asked, the build fails. -/
theorem build_of_broken_contains_failures_iff :
    (brokenBuilder (.error "broken") ".py").isBusy = false ∧
    (∃ res, ((brokenBuilder (.error "broken") ".py").build packageDisk "/r").2 = .ok res ∧ res.graph.frozen = true ∧
      res.report.failures = [⟨"a.py", ["broken"]⟩, ⟨"util/__init__.py", ["broken"]⟩]) ∧
    (∃ fault, ((brokenBuilder bareObject ".py").build packageDisk "/r").2 = .error fault) ∧
    ((brokenBuilder (.error "broken") ".txt").build noteDisk "/r").2 = .error (.failure "asked") := by
  obtain ⟨package, hpackage, hfiles⟩ := scan_packageDisk
  obtain ⟨note, hnote, hlisted⟩ := scan_noteDisk
  have hclaimed (thrown : Thrown) : ∀ file ∈ package.files,
      (brokenBuilder thrown ".py").registry.parserFor file.absolutePath = .ok (some (brokenParser thrown)) :=
    fun file hfile => brokenBuilder_parserFor thrown (extension_packageDisk file (hfiles ▸ hfile))
  refine ⟨rfl, ?_, ?_, ?_⟩
  · -- every file is rejected by its parser, with a text
    obtain ⟨-, -, hsucceeds, -, hlists⟩ :=
      build_contains_failures_iff (brokenBuilder (.error "broken") ".py") rfl packageDisk "/r"
    obtain ⟨res, hres⟩ := hsucceeds.2 ⟨package, hpackage, fun file hfile =>
      Registry.Yields.not_rejects (.contained (hclaimed _ file hfile) rfl rfl)⟩
    obtain ⟨hfrozen, s, hs, hfailures, -⟩ := hlists res hres
    obtain rfl : s = package := Except.ok.inj (hs.symm.trans hpackage)
    refine ⟨res, hres, hfrozen, ?_⟩
    rw [hfailures, List.filterMap_congr fun file hfile => failure?_of_said (hclaimed _ file hfile) rfl rfl, hfiles]
    rfl
  · -- and here without one
    obtain ⟨-, -, hsucceeds, -⟩ := build_contains_failures_iff (brokenBuilder bareObject ".py") rfl packageDisk "/r"
    cases hbuild : ((brokenBuilder bareObject ".py").build packageDisk "/r").2 with
    | error fault => exact ⟨fault, rfl⟩
    | ok res =>
        obtain ⟨s, hs, hall⟩ := hsucceeds.1 ⟨res, hbuild⟩
        obtain rfl : s = package := Except.ok.inj (hs.symm.trans hpackage)
        have hfile : scannedFile "/r" "a.py" 4 ∈ s.files := by rw [hfiles]; simp
        exact absurd (.inr ⟨_, bareObject, hclaimed _ _ hfile, rfl, rfl⟩) (hall _ hfile _)
  · -- no parser claims the file, and the only one fails when it is asked
    obtain ⟨-, -, hsucceeds, hloses, -⟩ :=
      build_contains_failures_iff (brokenBuilder (.error "broken") ".txt") rfl noteDisk "/r"
    have hprobe := brokenBuilder_probeFails_iff (.error "broken")
    have hfile : scannedFile "/r" "note.txt" 1 ∈ note.files := by rw [hlisted]; simp
    cases hbuild : ((brokenBuilder (.error "broken") ".txt").build noteDisk "/r").2 with
    | ok res =>
        obtain ⟨s, hs, hall⟩ := hsucceeds.1 ⟨res, hbuild⟩
        obtain rfl : s = note := Except.ok.inj (hs.symm.trans hnote)
        exact absurd (.inl ((hprobe _).2 rfl)) (hall _ hfile _)
    | error fault =>
        rcases hloses fault hbuild with hpattern | ⟨hs, hlost⟩ | ⟨hs, hall, -⟩
        · exact absurd (hpattern.symm.trans hnote) (by simp)
        · obtain rfl := Except.ok.inj (hs.symm.trans hnote)
          rw [hlisted, firstLost_singleton_iff, hprobe] at hlost
          rw [hlost]
        · obtain rfl := Except.ok.inj (hs.symm.trans hnote)
          exact absurd ((hprobe _).2 rfl) (hall _ hfile _)

end Build

end CodeAtlas
