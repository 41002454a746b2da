import Subscription.Command
import Subscription.Proofs.Filter.Output
import Subscription.Proofs.Predicate

/-! Runs of the command line: what a job takes to end well, and that the two forms in which it
prints its predicate agree. -/

namespace Subscription

/-! Loading -/

/-- Two steps give a result exactly where the second one does with what the first one gave. -/
theorem bind_eq_ok_iff {α β ε : Type} {first : Except ε α} {next : α → Except ε β} {y : β} :
    first >>= next = .ok y ↔ ∃ x, first = .ok x ∧ next x = .ok y := by
  -- A first step that fails leaves nothing to the second one.
  cases first with
  | error failure => exact ⟨nofun, nofun⟩
  | ok x =>
    constructor
    · exact fun given => ⟨x, rfl, given⟩
    · intro steps
      obtain ⟨_, same, given⟩ := steps
      cases same
      exact given

/-- A file has a text exactly where its octets are one. -/
theorem Files.text_eq_ok_iff {files : Files} {path text : String} :
    files.text path = .ok text ↔ (files path).bind String.fromUTF8? = some text := by
  -- A missing file and octets that are no text are one and the same failure.
  unfold Files.text
  cases (files path).bind String.fromUTF8? with
  | none => exact ⟨nofun, nofun⟩
  | some held => rw [Except.ok.injEq, Option.some.injEq]

/-- Renaming failures changes no result. -/
theorem mapError_eq_ok_iff {α ε ζ : Type} {rename : ε → ζ} {outcome : Except ε α} {x : α} :
    outcome.mapError rename = .ok x ↔ outcome = .ok x := by
  -- A result goes through as it is.
  cases outcome with
  | error failure => exact ⟨nofun, nofun⟩
  | ok y => rw [Except.mapError, Except.ok.injEq, Except.ok.injEq]

/-- A failure that was renamed has its name from one that was not. -/
theorem exists_of_mapError_eq_error {α ε ζ : Type} {rename : ε → ζ} {outcome : Except ε α}
    {renamed : ζ} (stopped : outcome.mapError rename = .error renamed) :
    ∃ failure, rename failure = renamed := by
  -- There was a failure before, since a result has no name to change.
  cases outcome with
  | error failure => exact ⟨failure, Except.error.inj stopped⟩
  | ok x => cases stopped

/-- A text gives settings exactly where it is read as settings that are of use. -/
theorem Settings.ofText_eq_ok_iff {text : String} {settings : Settings} :
    ofText text = .ok settings ↔ ofYaml? text = some settings ∧ settings.validate = .ok () := by
  unfold ofText
  -- Settings that were read still have to be of use.
  cases ofYaml? text with
  | none => exact ⟨nofun, fun parts => nomatch parts.1⟩
  | some given =>
    rw [Option.some.injEq]
    cases valid : given.validate with
    | error cause =>
      simp only [valid]
      refine ⟨nofun, fun parts => ?_⟩
      obtain ⟨rfl, passed⟩ := parts
      cases valid.symm.trans passed
    | ok _ =>
      simp only [valid, Except.ok.injEq]
      constructor
      · rintro rfl
        exact ⟨rfl, valid⟩
      · exact And.left

/-- Settings load exactly where the text of a file gives them and they are of use. -/
theorem Settings.load_eq_ok_iff {files : Files} {path : String} {settings : Settings} :
    Settings.load files path = .ok settings ↔ ∃ text, files.text path = .ok text ∧
      ofYaml? text = some settings ∧ settings.validate = .ok () :=
  -- The text of the file comes first, and what it gives is decided by the text alone.
  bind_eq_ok_iff.trans (exists_congr fun _ => and_congr_right fun _ => ofText_eq_ok_iff)

/-- A catalog loads exactly where the text of a file gives it. -/
theorem Catalog.load_eq_ok_iff {files : Files} {path : String} {catalog : Catalog} :
    Catalog.load files path = .ok catalog ↔
      ∃ text, files.text path = .ok text ∧ ofYaml? text = some catalog := by
  -- Behind the text there is one step more, which reads a catalog or fails.
  refine bind_eq_ok_iff.trans (exists_congr fun text => and_congr_right fun _ => ?_)
  cases ofYaml? text with
  | none => exact ⟨nofun, nofun⟩
  | some given => exact ⟨fun same => congrArg some (Except.ok.inj same),
      fun same => congrArg Except.ok (Option.some.inj same)⟩

/-- A filter loads exactly where the text of a file gives an expression, which is lifted, or null,
which is the empty filter. -/
theorem Filter.load_eq_ok_iff {files : Files} {path : String} {f : Filter} :
    Filter.load files path = .ok f ↔ ∃ text, files.text path = .ok text ∧
      ∃ read, Expr.ofText? path text = some read ∧ read.elim .empty .ofExpr = f := by
  refine bind_eq_ok_iff.trans (exists_congr fun text => and_congr_right fun _ => ?_)
  cases Expr.ofText? path text with
  | none => exact ⟨nofun, fun parts => nomatch parts.choose_spec.1⟩
  | some read =>
    constructor
    · intro same
      refine ⟨read, rfl, ?_⟩
      cases read <;> exact Except.ok.inj same
    · intro parts
      -- An expression and null are the two things that a filter is made of.
      obtain ⟨_, given, rfl⟩ := parts
      cases given
      cases read <;> rfl

namespace Command

/-! Jobs -/

/-- What the files of a job hold: settings, which are the standard ones unless the job names a file,
a catalog and a filter. -/
structure Job.Loads (job : Job) (files : Files) (settings : Settings) (catalog : Catalog)
    (f : Filter) : Prop where
  /-- The settings of a file are of use. -/
  settings : job.settings.elim (settings = {}) fun path => ∃ text, files.text path = .ok text ∧
    Settings.ofYaml? text = some settings ∧ settings.validate = .ok ()
  catalog : ∃ text, files.text job.catalog = .ok text ∧ Catalog.ofYaml? text = some catalog
  /-- An expression is lifted, and null is the empty filter. -/
  filter : ∃ text, files.text job.filter = .ok text ∧
    ∃ read, Expr.ofText? job.filter text = some read ∧ read.elim .empty .ofExpr = f

variable {files : Files} {job : Job} {settings : Settings} {catalog : Catalog} {f : Filter}

theorem Job.loadSettings_eq_ok_iff :
    job.loadSettings files = .ok settings ↔
      job.settings.elim (settings = {}) fun path => ∃ text, files.text path = .ok text ∧
        Settings.ofYaml? text = some settings ∧ settings.validate = .ok () := by
  -- Without a file the standard settings are the only ones.
  unfold Job.loadSettings
  cases job.settings with
  | none => rw [Option.elim_none, Except.ok.injEq, eq_comm]
  | some path => exact mapError_eq_ok_iff.trans Settings.load_eq_ok_iff

/-- The files of a job hold what its three loads give. -/
theorem Job.loads_iff : job.Loads files settings catalog f ↔
    job.loadSettings files = .ok settings ∧ Catalog.load files job.catalog = .ok catalog ∧
      Filter.load files job.filter = .ok f := by
  -- Each of the three loads is described by what its file holds.
  rw [loadSettings_eq_ok_iff, Catalog.load_eq_ok_iff, Filter.load_eq_ok_iff]
  exact ⟨fun loads => ⟨loads.settings, loads.catalog, loads.filter⟩,
    fun parts => ⟨parts.1, parts.2.1, parts.2.2⟩⟩

/-- A job whose files load is decided by its filter. -/
theorem Job.run_of_loads (loads : job.Loads files settings catalog f) :
    job.run files = report job.output catalog.resolver settings f := by
  -- All three loads give a result, so the report is the outcome.
  obtain ⟨readSettings, readCatalog, readFilter⟩ := loads_iff.1 loads
  simp only [run, readSettings, readCatalog, readFilter]
  rfl

theorem exists_loadFailed (what path : String) (cause : LoadError) :
    ∃ message, loadFailed what path cause = failed message := by
  -- An explained failure and an unexplained one differ in the message only.
  cases cause <;> exact ⟨_, rfl⟩

theorem exists_compileFailed (cause : CompileError) :
    ∃ message, compileFailed cause = failed message := by
  -- The kinds of failure differ in the message only.
  cases cause <;> exact ⟨_, rfl⟩

/-- Loading a file fails with one message. -/
theorem exists_failed_of_mapError {α : Type} {what path : String} {loaded : Except LoadError α}
    {outcome : Outcome} (stopped : loaded.mapError (loadFailed what path) = .error outcome) :
    ∃ message, outcome = failed message := by
  -- The outcome is the name of some failure, and every name is a message.
  obtain ⟨cause, rfl⟩ := exists_of_mapError_eq_error stopped
  exact exists_loadFailed what path cause

/-- Settings that do not load fail with one message. -/
theorem Job.exists_failed_of_loadSettings {outcome : Outcome}
    (stopped : job.loadSettings files = .error outcome) : ∃ message, outcome = failed message := by
  -- The standard settings never fail, so a file was to be loaded.
  unfold Job.loadSettings at stopped
  split at stopped
  · cases stopped
  · exact exists_failed_of_mapError stopped

/-- A job whose files do not load fails with one message, whatever it was to print. -/
theorem Job.run_of_not_loads (none : ∀ settings catalog f, ¬ job.Loads files settings catalog f) :
    ∃ message, ∀ form, { job with output := form }.run files = failed message := by
  have settingsOf : ∀ form, { job with output := form }.loadSettings files =
    job.loadSettings files := fun _ => rfl
  -- The first of the three loads that fails says why.
  cases readSettings : job.loadSettings files with
  | error outcome =>
    obtain ⟨message, rfl⟩ := exists_failed_of_loadSettings readSettings
    refine ⟨message, fun form => ?_⟩
    simp only [run, settingsOf, readSettings]
    rfl
  | ok settings =>
    cases readCatalog : (Catalog.load files job.catalog).mapError
        (loadFailed "catalog" job.catalog) with
    | error outcome =>
      obtain ⟨message, rfl⟩ := exists_failed_of_mapError readCatalog
      refine ⟨message, fun form => ?_⟩
      simp only [run, settingsOf, readSettings, readCatalog]
      rfl
    | ok catalog =>
      cases readFilter : (Filter.load files job.filter).mapError
          (loadFailed "filter" job.filter) with
      | error outcome =>
        obtain ⟨message, rfl⟩ := exists_failed_of_mapError readFilter
        refine ⟨message, fun form => ?_⟩
        simp only [run, settingsOf, readSettings, readCatalog, readFilter]
        rfl
      | ok f =>
        exact absurd (loads_iff.2 ⟨readSettings, mapError_eq_ok_iff.1 readCatalog,
          mapError_eq_ok_iff.1 readFilter⟩) (none settings catalog f)

/-! Reports -/

variable {resolver : Resolver} {p : Predicate}

/-- A filter that does not compile is reported with one message, in either form. -/
theorem report_of_error {cause : CompileError}
    (stopped : f.compile resolver settings = .error cause) (form : OutputForm) :
    report form resolver settings f = compileFailed cause := by
  -- Either form compiles the filter first, one of them on the way to its text.
  cases form with
  | xml =>
    have unwritten : f.toXml resolver settings = .error cause := by
      rw [Filter.toXml, stopped]
      rfl
    simp only [report, unwritten]
  | json => simp only [report, stopped]

/-- A predicate is printed in JSON, and read back from what was printed. -/
theorem report_json (compiled : f.compile resolver settings = .ok p) :
    ∃ text, report .json resolver settings f = printed text ∧
      Predicate.ofJsonText? (text ++ "\n") = some p :=
  -- The text is the indented form of the predicate, and a line break ends the line.
  ⟨p.toJson.write .indented, by simp only [report, compiled], p.ofJsonText?_write .indented⟩

/-- The predicate of a filter that restricts something is printed in XML, and read back from the
line that was printed. -/
theorem report_xml (compiled : f.compile resolver settings = .ok p)
    (restricts : f.isEmpty = false) :
    ∃ xml, report .xml resolver settings f = printed xml ∧ Predicate.ofXml? xml = some p := by
  -- A filter that restricts something has a predicate with a group.
  have nonEmpty : p.isEmpty = false := (Filter.isEmpty_eq_of_compile compiled).trans restricts
  obtain ⟨declaredRead, plainRead⟩ := Wire.Reader.document?_writeGroups p.groups
  have written : ∃ xml, p.toXml? settings.declaration = some xml ∧
      Predicate.ofXml? xml = some p := by
    rw [p.toXml?_eq_ite, nonEmpty]
    refine ⟨_, rfl, ?_⟩
    rw [Predicate.ofXml?, String.toList_ofList]
    cases settings.declaration with
    | true => rw [if_pos rfl, declaredRead, Option.map_some]
    | false => rw [if_neg Bool.false_ne_true, List.nil_append, plainRead, Option.map_some]
  obtain ⟨xml, shown, read⟩ := written
  have output : f.toXml resolver settings = .ok (some xml) := by
    rw [Filter.toXml, compiled, ← shown]
    rfl
  exact ⟨xml, by simp only [report, output], read⟩

/-- The empty filter has nothing to print in XML. -/
theorem report_xml_empty (restrictsNothing : f.isEmpty = true) :
    report .xml resolver settings f = { code := 0, stdout := "", stderr := "<empty>\n" } := by
  -- There is no wire form exactly for the empty filter, and it is the only one with a notice.
  have output : f.toXml resolver settings = .ok none :=
    (f.toXml_eq_none_iff resolver settings).2 restrictsNothing
  simp only [report, output]

/-- The empty filter has the empty predicate. -/
theorem eq_empty_of_compile (compiled : f.compile resolver settings = .ok p)
    (restrictsNothing : f.isEmpty = true) : p = .empty := by
  -- Its predicate has no group, and a predicate is nothing but its groups.
  have none := (Filter.isEmpty_eq_of_compile compiled).trans restrictsNothing
  obtain ⟨groups⟩ := p
  exact congrArg Predicate.mk (List.isEmpty_iff.1 none)

/-- A filter that compiles is reported with code zero. -/
theorem report_code (compiled : f.compile resolver settings = .ok p) (form : OutputForm) :
    (report form resolver settings f).code = 0 := by
  -- No form fails once the filter has been compiled.
  cases form with
  | xml =>
    cases empty : f.isEmpty with
    | true => rw [report_xml_empty empty]
    | false =>
      obtain ⟨xml, reported, -⟩ := report_xml compiled empty
      rw [reported, printed]
  | json =>
    obtain ⟨text, reported, -⟩ := report_json compiled
    rw [reported, printed]

/-! Runs -/

/-- The files of a job hold one thing each. -/
theorem Job.Loads.unique {settings' : Settings} {catalog' : Catalog} {f' : Filter}
    (loads : job.Loads files settings catalog f) (others : job.Loads files settings' catalog' f') :
    settings' = settings ∧ catalog' = catalog ∧ f' = f := by
  -- Whatever the files hold is the result of the three loads, which have one result each.
  obtain ⟨readSettings, readCatalog, readFilter⟩ := loads_iff.1 loads
  obtain ⟨againSettings, againCatalog, againFilter⟩ := loads_iff.1 others
  exact ⟨Except.ok.inj (againSettings.symm.trans readSettings),
    Except.ok.inj (againCatalog.symm.trans readCatalog),
    Except.ok.inj (againFilter.symm.trans readFilter)⟩

/-- A job is reported where its files load and its filter compiles; otherwise it fails with one
message, whatever it was to print. -/
theorem Job.run_cases (job : Job) (files : Files) :
    (∃ settings catalog f p, job.Loads files settings catalog f ∧
      f.compile catalog.resolver settings = .ok p ∧
      ∀ form, { job with output := form }.run files = report form catalog.resolver settings f) ∨
    (∀ settings catalog f p, job.Loads files settings catalog f →
      f.compile catalog.resolver settings ≠ .ok p) ∧
      ∃ message, ∀ form, { job with output := form }.run files = failed message := by
  -- The form is looked at only after the files were loaded.
  by_cases loaded : ∃ settings catalog f, job.Loads files settings catalog f
  · obtain ⟨settings, catalog, f, loads⟩ := loaded
    have reported : ∀ form, { job with output := form }.run files =
        report form catalog.resolver settings f :=
      fun form => run_of_loads ⟨loads.settings, loads.catalog, loads.filter⟩
    cases compiled : f.compile catalog.resolver settings with
    | ok p => exact .inl ⟨settings, catalog, f, p, loads, compiled, reported⟩
    | error cause =>
      obtain ⟨message, failure⟩ := exists_compileFailed cause
      refine .inr ⟨fun _ _ _ p others => ?_, message, fun form => ?_⟩
      · obtain ⟨rfl, rfl, rfl⟩ := loads.unique others
        rw [compiled]
        exact nofun
      · rw [reported, report_of_error compiled, failure]
  · have never : ∀ settings catalog f, ¬ job.Loads files settings catalog f :=
      fun settings catalog f loads => loaded ⟨settings, catalog, f, loads⟩
    exact .inr ⟨fun settings catalog f _ loads => absurd loads (never settings catalog f),
      run_of_not_loads never⟩

/--
The two forms of output agree.

Runs of one job that differ in their form of output end with the same code. It is zero exactly where
the files load and the filter compiles; otherwise it is one, and nothing is printed.

A filter that restricts something has its predicate printed in either form, and the same predicate
is read back from both. For the empty filter one form prints nothing and leaves a note, and the
other one prints the predicate without groups.
-/
theorem outputs_agree {files : Files} {env env' : String → Option String}
    {args args' : List String} {job : Job}
    (first : parse env args = .ok { job with output := .xml })
    (second : parse env' args' = .ok { job with output := .json }) :
    (run files env args).code = (run files env' args').code ∧
    ((run files env args).code = 0 ↔ ∃ settings catalog f p, job.Loads files settings catalog f ∧
      f.compile catalog.resolver settings = .ok p) ∧
    ((run files env args).code ≠ 0 → (run files env args).code = 1 ∧
      (run files env args).stdout = "" ∧ (run files env' args').stdout = "") ∧
    ∀ settings catalog f p, job.Loads files settings catalog f →
      f.compile catalog.resolver settings = .ok p →
      (f.isEmpty = false → ∃ xml, (run files env args).stdout = xml ++ "\n" ∧
        Predicate.ofXml? xml = some p ∧
        Predicate.ofJsonText? (run files env' args').stdout = some p) ∧
      (f.isEmpty = true → (run files env args).stdout = "" ∧
        (run files env args).stderr = "<empty>\n" ∧
        Predicate.ofJsonText? (run files env' args').stdout = some .empty) := by
  have ranXml : run files env args = { job with output := .xml }.run files := by
    simp only [run, first]
  have ranJson : run files env' args' = { job with output := .json }.run files := by
    simp only [run, second]
  rw [ranXml, ranJson]
  rcases job.run_cases files with ⟨settings, catalog, f, p, loads, compiled, reported⟩ |
    ⟨never, message, failure⟩
  · -- Both forms report the predicate of the one filter that was loaded.
    have codes := report_code compiled
    obtain ⟨text, shown, readJson⟩ := report_json compiled
    rw [reported, reported, codes, codes]
    refine ⟨rfl, ⟨fun _ => ⟨settings, catalog, f, p, loads, compiled⟩, fun _ => rfl⟩,
      fun bad => absurd rfl bad, fun _ _ _ q others again => ?_⟩
    obtain ⟨rfl, rfl, rfl⟩ := loads.unique others
    cases compiled.symm.trans again
    rw [shown]
    refine ⟨fun restricts => ?_, fun empty => ?_⟩
    · obtain ⟨xml, written, readXml⟩ := report_xml compiled restricts
      rw [written]
      exact ⟨xml, rfl, readXml, readJson⟩
    · rw [report_xml_empty empty]
      rw [eq_empty_of_compile compiled empty] at readJson
      exact ⟨rfl, rfl, readJson⟩
  · rw [failure, failure]
    refine ⟨rfl, ⟨nofun, fun ends => ?_⟩, fun _ => ⟨rfl, rfl, rfl⟩,
      fun settings catalog f p loads compiled => absurd compiled (never settings catalog f p loads)⟩
    obtain ⟨settings, catalog, f, p, loads, compiled⟩ := ends
    exact absurd compiled (never settings catalog f p loads)

/-- A negated flag against a catalog of one attribute is printed as one group in both forms. -/
theorem outputs_agree_flag :
    let files : Files := fun path =>
      if path = "f.json" then
        some "\x7b\"not\":\x7b\"value\":\x7b\"attributeRef\":\"a\"\x7d\x7d\x7d".toUTF8
      else if path = "c" then some "attributes: \x7ba: b\x7d".toUTF8 else none
    let ran (form : String) := run files (fun _ => none) ["f.json", "-c", "c", "-o", form]
    (ran "xml").code = (ran "json").code ∧ ∃ xml, (ran "xml").stdout = xml ++ "\n" ∧
      Predicate.ofXml? xml = some ⟨[[.comparison "b" .equal "False"]]⟩ ∧
      Predicate.ofJsonText? (ran "json").stdout = some ⟨[[.comparison "b" .equal "False"]]⟩ := by
  intro files ran
  -- The two files are read, the one tag of the catalog is looked up, and the flag is compiled.
  have catalogText : files.text "c" = .ok "attributes: \x7ba: b\x7d" :=
    Files.text_eq_ok_iff.2 (by decide +kernel)
  have filterText : files.text "f.json" =
      .ok "\x7b\"not\":\x7b\"value\":\x7b\"attributeRef\":\"a\"\x7d\x7d\x7d" :=
    Files.text_eq_ok_iff.2 (by decide +kernel)
  have tables : (Catalog.ofYaml? "attributes: \x7ba: b\x7d").map (·.attributes) =
      some ⟨[("a", "b")]⟩ := by decide +kernel
  obtain ⟨catalog, readCatalog, entries⟩ := Option.map_eq_some_iff.1 tables
  have readFilter : Expr.ofText? "f.json"
      "\x7b\"not\":\x7b\"value\":\x7b\"attributeRef\":\"a\"\x7d\x7d\x7d" =
        some (some (.not (.attributeRef ⟨"a"⟩))) := by decide +kernel
  have loads : Job.Loads ⟨"f.json", "c", none, .xml⟩ files {} catalog
      (.ofExpr (.not (.attributeRef ⟨"a"⟩))) :=
    ⟨rfl, ⟨_, catalogText, readCatalog⟩, ⟨_, filterText, _, readFilter, rfl⟩⟩
  have token : catalog.resolver.attributeToken ⟨"a"⟩ = some "b" := by
    rw [Catalog.resolver, entries]
    rfl
  have leaf : Expr.statement catalog.resolver (.flag ⟨"a"⟩ false) =
      .ok (.comparison "b" .equal "False") :=
    Expr.leafStatement_eq_ok_iff.2 ⟨"b", _,
      Value.attributeToken_eq_ok_iff.2 ⟨_, rfl, token, by decide⟩, rfl, .inr ⟨_, rfl, rfl⟩⟩
  have compiled : (Filter.ofExpr (.not (.attributeRef ⟨"a"⟩))).compile catalog.resolver {} =
      .ok ⟨[[.comparison "b" .equal "False"]]⟩ := by
    refine Expr.compile_eq_ok_iff.2 ⟨?_, by decide, ?_⟩
    · rw [Expr.depth_eq_height]
      decide
    · have only : Expr.groups catalog.resolver (.flag ⟨"a"⟩ false) =
          .ok [[.comparison "b" .equal "False"]] := by
        simp only [Expr.flag, Expr.groups, Expr.statements] at leaf ⊢
        rw [leaf]
        rfl
      exact only
  have agree := @outputs_agree files (fun _ => none) (fun _ => none)
    ["f.json", "-c", "c", "-o", "xml"] ["f.json", "-c", "c", "-o", "json"]
    ⟨"f.json", "c", none, .xml⟩ rfl rfl
  exact ⟨agree.1, (agree.2.2.2 _ _ _ _ loads compiled).1 rfl⟩

end Command

end Subscription
