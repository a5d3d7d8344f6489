import Issuance.Proofs.Cli.Arguments
import Issuance.Proofs.Cli.Effects
import Issuance.Proofs.Credential.Printed
import Issuance.Proofs.Json.Overlay

/-! # Issuing credentials on the command line

    Two commands issue a credential: one takes the form from a file and from fields on the line, the
    other asks for it. Both load a template, collect a form and render, all of it quietly, and
    deliver what was rendered last. So a run that fails has changed no file and printed no
    credential, and one that succeeds has delivered what the library renders: the body of the
    credential in spread form, in the one file named or on the output. -/

namespace Issuance.Cli

/-- Where the values of a form come from: from a file and the fields over it, or from the answers
    that are given. -/
inductive Entries where
  | given (path : Option String) (fields : List (String × String))
  | asked

/-- A credential to be issued: the template, the issuer, where the values come from, where the
    credential goes, and how values are put in. -/
structure Job where
  source : TemplateSource
  orgDid : String
  entries : Entries
  output : Option String
  escaping : Placeholder.Escaping

/-- The credential that a command issues, if it is one that does. -/
def Command.job? : Command → Option Job
  | .render source orgDid values form output escape =>
    some ⟨source, orgDid, .given form values, output, if escape then .jsonString else .verbatim⟩
  | .fill source orgDid output => some ⟨source, orgDid, .asked, output, .verbatim⟩
  | _ => none

/-! ### What is to be issued -/

section
variable (w : World)

/-- The template at a source: the preset with the key, or what the text of the file is loaded as. -/
def TemplateSource.Provides (t : Template) : TemplateSource → Prop
  | .preset key => ∃ catalog, Catalog.builtin.outcome = .ok catalog ∧ catalog.get key = .ok t
  | .file path => w.files.holds path = true ∧ ∃ text, w.files.read path = .ok text ∧
      (Template.load (formatOf path) text.toList).outcome = .ok t

/-- The members in the file for a form; none if there is no such file. -/
def HoldsForm (base : Json.Object) : Option String → Prop
  | some path => ∃ text, w.files.read path = .ok text ∧ Json.parse text.toList = .ok (.object base)
  | none => base = []

/-- The form that values make: the members of the file with the fields written over them as strings,
    one after the other; or the answers. -/
def Entries.Make (t : Template) (form : Json.Object) : Entries → Prop
  | .given path fields => ∃ base, HoldsForm w base path ∧
      form = base.overlay (fields.map fun field => (field.1, .string field.2))
  | .asked => (Prompt.run t w.input).ending.form = .ok form

/-- What the library renders for a job. -/
def Job.rendered (job : Job) (t : Template) (form : Json.Object) : Traced Event Credential :=
  let renderer : Renderer := { clock := w.clock, ids := w.ids, escaping := job.escaping }
  (renderer.render t ⟨⟨job.orgDid, []⟩, form⟩ {}).result

/-- The library renders the credential of a job from a template and a form. -/
structure Job.Renders (job : Job) (t : Template) (form : Json.Object) (cred : Credential) :
    Prop where
  provides : job.source.Provides w t
  makes : job.entries.Make w t form
  renders : (job.rendered w t form).outcome = .ok cred

end

/-! ### What comes of a run -/

/-- What is done to deliver a text: it is written to the file and its path is reported, or it is
    printed. -/
def delivery (text : String) : Option String → List Effect
  | some path => [.write path text, .print ("✓ Credential created: " ++ path ++ "\n")]
  | none => [.print (text ++ "\n")]

/-- Whether a text can be delivered: there is no file to write, or it can be written. -/
def Deliverable (w : World) (output : Option String) : Prop :=
  ∀ path, output = some path → w.files.write path = .ok ()

/-- A run that failed: nothing is printed but questions, and no file is changed. -/
structure Outcome.Undone (o : Outcome) : Prop where
  exitCode : o.exitCode = 1
  results : results o.effects = []
  writes : o.writes = []
  folder : ∀ folder : Folder, o.folderAfter folder = folder

/-- A run that delivered a text: nothing else is printed but questions, and the text is written to
    one file or to none. In a folder it stands where the path leads, and nothing else is changed. -/
structure Outcome.Delivered (o : Outcome) (output : Option String) (text : String) : Prop where
  exitCode : o.exitCode = 0
  results : results o.effects = delivery text output
  writes : o.writes = (output.map fun path => (path, text)).toList
  target : ∀ (folder : Folder) path steps, output = some path →
    folder.target path = .ok (some steps) → (o.folderAfter folder).text? steps = some text
  others : ∀ (folder : Folder) steps,
    (∀ path, output = some path → folder.target path ≠ .ok (some steps)) →
    (o.folderAfter folder).text? steps = folder.text? steps

variable {w : World} {t : Template} {form base : Json.Object} {path : Option String}
  {fields : List (String × String)} {job : Job} {cred : Credential} {output : Option String}
  {text : String}

theorem Outcome.undone_of_results {o : Outcome} (hcode : o.exitCode = 1)
    (h : Cli.results o.effects = []) : o.Undone := by
  have hwrites : o.writes = [] := by
    rw [writes_eq, h]
    rfl
  refine ⟨hcode, h, hwrites, fun folder => ?_⟩
  rw [folderAfter, hwrites, List.foldl_nil]

theorem Outcome.delivered_of_results {o : Outcome} (hcode : o.exitCode = 0)
    (h : Cli.results o.effects = delivery text output) : o.Delivered output text := by
  have hwrites : o.writes = (output.map fun path => (path, text)).toList := by
    rw [writes_eq, h]
    cases output <;> rfl
  refine ⟨hcode, h, hwrites, ?_, ?_⟩
  · rintro folder path steps rfl htarget
    rw [folderAfter, hwrites]
    exact (Folder.text?_write htarget text steps).trans (if_pos rfl)
  · intro folder steps hother
    rw [folderAfter, hwrites]
    cases output with
    | none => rfl
    | some path =>
      change (folder.write path text).text? steps = folder.text? steps
      by_cases hkept : ∃ there, folder.target path = .ok (some there)
      · obtain ⟨there, hthere⟩ := hkept
        have hne : there ≠ steps := fun heq => hother path rfl (heq ▸ hthere)
        rw [Folder.text?_write hthere, if_neg hne]
      · rw [Folder.write_eq_self fun there hthere => hkept ⟨there, hthere⟩]

/-! ### The template -/

theorem outcome_log_bind {α : Type} (e : Event) (f : Unit → Traced Effect α) :
    (log e >>= f).outcome = (f ()).outcome := by
  rw [Traced.bind_of_ok (x := log e) rfl]

/-- What the library comes to settles how a run goes on. It is left open here what the library
    computes, since it is not to be unfolded. -/
theorem outcome_ofLibrary_bind_eq_ok_iff {α β : Type} (x : Traced Event α) {f : α → Except Error β}
    {b : β} : (ofLibrary x >>= fun a => .ofExcept (f a)).outcome = .ok b ↔
      ∃ a, x.outcome = .ok a ∧ f a = .ok b := by
  rw [Traced.outcome_bind_eq_ok_iff]
  rfl

theorem outcome_onFile_eq_ok_iff {α : Type} {x : Except IoFailure α} {a : α} :
    (onFile x).outcome = .ok a ↔ x = .ok a := by
  cases x <;> simp [onFile, Traced.ofExcept, Except.mapError]

theorem quiet_onFile {α : Type} (x : Except IoFailure α) : Quiet (onFile x) := quiet_ofExcept _

theorem quiet_loadTemplate (w : World) (source : TemplateSource) :
    Quiet (loadTemplate w source) := by
  cases source with
  | preset key =>
    exact (quiet_log _).bind fun _ => (quiet_ofLibrary _).bind fun _ => quiet_ofExcept _
  | file path =>
    rw [loadTemplate]
    split
    · exact (quiet_log _).bind fun _ => (quiet_onFile _).bind fun _ => quiet_ofLibrary _
    · exact quiet_ofExcept _

theorem outcome_loadTemplate_preset {key : String} :
    (loadTemplate w (.preset key)).outcome = .ok t ↔
      TemplateSource.Provides w t (.preset key) := by
  rw [loadTemplate, outcome_log_bind, TemplateSource.Provides,
    outcome_ofLibrary_bind_eq_ok_iff Catalog.builtin (f := fun catalog => catalog.get key)]

theorem outcome_loadTemplate_file {path : String} :
    (loadTemplate w (.file path)).outcome = .ok t ↔
      TemplateSource.Provides w t (.file path) := by
  rw [loadTemplate, TemplateSource.Provides]
  split
  · next hholds =>
    rw [outcome_log_bind, Traced.outcome_bind_eq_ok_iff]
    simp only [outcome_onFile_eq_ok_iff, hholds, true_and]
    rfl
  · next hholds =>
    refine ⟨fun h => ?_, fun h => absurd h.1 hholds⟩
    cases h

theorem outcome_loadTemplate_eq_ok_iff : ∀ {source : TemplateSource},
    (loadTemplate w source).outcome = .ok t ↔ source.Provides w t
  | .preset _ => outcome_loadTemplate_preset
  | .file _ => outcome_loadTemplate_file

/-! ### The form -/

theorem quiet_readForm (w : World) (path : String) : Quiet (readForm w path) := by
  refine (quiet_onFile _).bind fun text => (quiet_ofExcept _).bind fun v => ?_
  split
  · exact quiet_pure _
  · exact quiet_ofExcept _

theorem outcome_readForm_eq_ok_iff {path : String} :
    (readForm w path).outcome = .ok base ↔ HoldsForm w base (some path) := by
  rw [readForm, HoldsForm, Traced.outcome_bind_eq_ok_iff]
  refine exists_congr fun text => and_congr outcome_onFile_eq_ok_iff ?_
  rw [Traced.outcome_bind_eq_ok_iff]
  cases hparse : Json.parse text.toList with
  | error d => simp [demand, Traced.ofExcept, Except.mapError]
  | ok v =>
    cases v <;> simp [demand, Traced.ofExcept, Except.mapError, Traced.fail, pure, Traced.pure]

theorem quiet_addFields : ∀ (fields : List (String × String)) (form : Json.Object),
    Quiet (addFields form fields)
  | [], _ => quiet_pure _
  | (_, _) :: rest, _ => (quiet_log _).bind fun _ => quiet_addFields rest _

/-- Adding fields never fails. -/
theorem outcome_addFields : ∀ (fields : List (String × String)) (form : Json.Object),
    (addFields form fields).outcome =
      .ok (form.overlay (fields.map fun field => (field.1, .string field.2)))
  | [], _ => rfl
  | (id, value) :: rest, form => by
    rw [addFields, outcome_log_bind, outcome_addFields rest]
    rfl

theorem quiet_buildForm (w : World) (path : Option String) (fields : List (String × String)) :
    Quiet (buildForm w path fields) := by
  cases path with
  | none => exact (quiet_pure _).bind fun _ => quiet_addFields fields _
  | some path => exact (quiet_readForm w path).bind fun _ => quiet_addFields fields _

theorem quiet_askFields (w : World) (t : Template) : Quiet (askFields w t) := by
  have hsaid : Quiet (.emitAll (effectsOf (Prompt.run t w.input))) := by
    refine List.filter_eq_nil_iff.mpr fun effect heffect => ?_
    rcases List.mem_append.mp heffect with h | h
    · obtain ⟨u, -, rfl⟩ := List.mem_map.mp h
      exact Bool.false_ne_true
    · split at h
      · rw [List.mem_singleton.mp h]
        exact Bool.false_ne_true
      · cases h
      · cases h
  exact hsaid.bind fun _ => quiet_ofExcept _

/-- The form that values make, and what is done on the way to it. -/
def Entries.collect (w : World) (t : Template) : Entries → Traced Effect Json.Object
  | .given path fields => buildForm w path fields
  | .asked => askFields w t

theorem Entries.quiet_collect (w : World) (t : Template) (entries : Entries) :
    Quiet (entries.collect w t) := by
  cases entries with
  | given path fields => exact quiet_buildForm w path fields
  | asked => exact quiet_askFields w t

theorem Entries.outcome_collect_eq_ok_iff {entries : Entries} :
    (entries.collect w t).outcome = .ok form ↔ entries.Make w t form := by
  cases entries with
  | given path fields =>
    cases path with
    | none =>
      change (pure [] >>= fun base => addFields base fields).outcome = .ok form ↔ _
      rw [Traced.bind_of_ok (x := pure []) rfl, outcome_addFields, Except.ok.injEq, eq_comm]
      exact ⟨fun h => ⟨[], rfl, h⟩, fun ⟨_, hbase, h⟩ => hbase ▸ h⟩
    | some path =>
      change (readForm w path >>= fun base => addFields base fields).outcome = .ok form ↔ _
      rw [Traced.outcome_bind_eq_ok_iff]
      refine exists_congr fun base => and_congr outcome_readForm_eq_ok_iff ?_
      rw [outcome_addFields, Except.ok.injEq, eq_comm]
  | asked =>
    rw [collect, askFields, Traced.bind_of_ok (x := Traced.emitAll _) rfl]
    rfl

/-! ### The credential -/

/-- What is done to issue a credential, up to its delivery. -/
def Job.issue (w : World) (job : Job) : Traced Effect Credential := do
  let t ← loadTemplate w job.source
  let form ← job.entries.collect w t
  ofLibrary (job.rendered w t form)

theorem Job.quiet_issue (w : World) (job : Job) : Quiet (job.issue w) :=
  (quiet_loadTemplate w _).bind fun t => (job.entries.quiet_collect w t).bind fun _ =>
    quiet_ofLibrary _

theorem Job.outcome_issue_eq_ok_iff :
    (job.issue w).outcome = .ok cred ↔ ∃ t form, job.Renders w t form cred := by
  rw [issue, Traced.outcome_bind_eq_ok_iff]
  refine exists_congr fun t => ?_
  rw [outcome_loadTemplate_eq_ok_iff, Traced.outcome_bind_eq_ok_iff, ← exists_and_left]
  refine exists_congr fun form => ?_
  rw [Entries.outcome_collect_eq_ok_iff]
  exact ⟨fun h => ⟨h.1, h.2.1, h.2.2⟩, fun h => ⟨h.provides, h.makes, h.renders⟩⟩

/-- There is one credential at most that a job can come to. -/
theorem Job.Renders.credential_eq {t' : Template} {form' : Json.Object} {cred' : Credential}
    (h : job.Renders w t form cred) (h' : job.Renders w t' form' cred') : cred' = cred := by
  have hcred := outcome_issue_eq_ok_iff.mpr ⟨t, form, h⟩
  have hcred' := outcome_issue_eq_ok_iff.mpr ⟨t', form', h'⟩
  rw [hcred, Except.ok.injEq] at hcred'
  exact hcred'.symm

/-! ### The delivery -/

/-- Delivers a text. -/
def deliver (w : World) (text : String) : Option String → Traced Effect Unit
  | some path => do
    writeFile w path text
    printLine ("✓ Credential created: " ++ path)
  | none => printLine text

theorem deliver_none (w : World) (text : String) :
    deliver w text none = ⟨delivery text none, .ok ()⟩ := rfl

theorem deliver_of_write {path : String} (h : w.files.write path = .ok ()) (text : String) :
    deliver w text (some path) = ⟨delivery text (some path), .ok ()⟩ := by
  have hfile : writeFile w path text = ⟨[.write path text], .ok ()⟩ := by
    rw [writeFile, h, Traced.bind_of_ok (x := onFile _) rfl]
    rfl
  rw [deliver, Traced.bind_of_ok (x := writeFile w path text) (by rw [hfile]), hfile]
  rfl

theorem deliver_of_write_error {path : String} {failure : IoFailure}
    (h : w.files.write path = .error failure) (text : String) :
    deliver w text (some path) = ⟨[], .error (.io failure)⟩ := by
  have hfile : writeFile w path text = ⟨[], .error (.io failure)⟩ := by
    rw [writeFile, h, Traced.bind_of_error (x := onFile _) rfl]
    rfl
  rw [deliver, Traced.bind_of_error (x := writeFile w path text) (by rw [hfile]), hfile]

/-- A delivery is done as a whole if it is possible; if not, it fails and nothing is done. -/
theorem deliver_cases (w : World) (text : String) (output : Option String) :
    (Deliverable w output ∧ deliver w text output = ⟨delivery text output, .ok ()⟩) ∨
    (¬Deliverable w output ∧ ∃ e, deliver w text output = ⟨[], .error e⟩) := by
  cases output with
  | none => exact .inl ⟨nofun, deliver_none w text⟩
  | some path =>
    cases hwrite : w.files.write path with
    | ok _ =>
      refine .inl ⟨fun path' hpath => ?_, deliver_of_write hwrite text⟩
      cases hpath
      exact hwrite
    | error failure =>
      refine .inr ⟨fun hpossible => ?_, _, deliver_of_write_error hwrite text⟩
      rw [hpossible path rfl] at hwrite
      cases hwrite

/-! ### The run -/

theorem renderTo_eq (w : World) (job : Job) (t : Template) (form : Json.Object) :
    renderTo w t job.orgDid form job.output job.escaping =
      ofLibrary (job.rendered w t form) >>= fun cred =>
        deliver w (Json.spreadText (.object cred.body)) job.output := by
  rw [renderTo]
  cases job.output <;> rfl

/-- Both commands that issue a credential do what the job says, and deliver what comes of it. -/
theorem carryOut_eq {command : Command} (h : command.job? = some job) :
    carryOut w command =
      job.issue w >>= fun cred => deliver w (Json.spreadText (.object cred.body)) job.output := by
  rw [Job.issue, Traced.bind_assoc]
  have hcarry : carryOut w command = loadTemplate w job.source >>= fun t =>
      job.entries.collect w t >>= fun form =>
        renderTo w t job.orgDid form job.output job.escaping := by
    cases command with
    | render source orgDid values form output escape => cases h; rfl
    | fill source orgDid output => cases h; rfl
    | _ => cases h
  rw [hcarry]
  refine congrArg (loadTemplate w job.source >>= ·) (funext fun t => ?_)
  rw [Traced.bind_assoc]
  exact congrArg (job.entries.collect w t >>= ·) (funext fun form => renderTo_eq w job t form)

variable {i : Invocation} {args : List String}

theorem run_of_ofArguments (h : Invocation.ofArguments w.orgDid args = .ok i) :
    run w args = i.run w := by
  rw [run, h]

/-- A computation that fails without results is a run that failed. -/
theorem undone_run {e : Error} (hfails : (carryOut w i.command).outcome = .error e)
    (hquiet : results (carryOut w i.command).trace = []) : (i.run w).Undone := by
  have hrun : i.run w = ⟨visible (logFilter w i.verbose) (carryOut w i.command).trace ++
      i.failure w e, 1⟩ := by
    rw [Invocation.run, hfails]
  rw [hrun]
  refine Outcome.undone_of_results rfl ?_
  rw [results_append, results_visible, hquiet, results_failure, List.nil_append]

/-- A computation that succeeds with the results of a delivery is a run that delivered. -/
theorem delivered_run (hsucceeds : (carryOut w i.command).outcome = .ok ())
    (hresults : results (carryOut w i.command).trace = delivery text output) :
    (i.run w).Delivered output text := by
  have hrun : i.run w =
      ⟨visible (logFilter w i.verbose) (carryOut w i.command).trace, 0⟩ := by
    rw [Invocation.run, hsucceeds]
  rw [hrun]
  refine Outcome.delivered_of_results rfl ?_
  rw [results_visible, hresults]

theorem results_delivery (text : String) (output : Option String) :
    results (delivery text output) = delivery text output := by
  cases output <;> rfl

/-- A run issues what the library renders, if there is such a credential and it can be delivered;
    otherwise it leaves nothing behind. -/
theorem Invocation.run_cases (hjob : i.command.job? = some job) :
    ((i.run w).Undone ∧
      ∀ t form cred, job.Renders w t form cred → ¬Deliverable w job.output) ∨
    (Deliverable w job.output ∧ ∃ t form cred, job.Renders w t form cred ∧
      (i.run w).Delivered job.output (Json.spreadText (.object cred.body))) := by
  have hcarry := carryOut_eq (w := w) hjob
  have hquiet := job.quiet_issue w
  cases hissue : (job.issue w).outcome with
  | error e =>
    rw [Traced.bind_of_error hissue] at hcarry
    refine .inl ⟨undone_run (e := e) ?_ ?_, fun t form cred hrenders _ => ?_⟩
    · rw [hcarry]
    · rw [hcarry]
      exact hquiet
    · rw [Job.outcome_issue_eq_ok_iff.mpr ⟨t, form, hrenders⟩] at hissue
      cases hissue
  | ok cred =>
    rw [Traced.bind_of_ok hissue] at hcarry
    rcases deliver_cases w (Json.spreadText (.object cred.body)) job.output with
      ⟨hpossible, hdeliver⟩ | ⟨himpossible, e, hdeliver⟩
    · rw [hdeliver] at hcarry
      obtain ⟨t, form, hrenders⟩ := Job.outcome_issue_eq_ok_iff.mp hissue
      refine .inr ⟨hpossible, t, form, cred, hrenders, delivered_run ?_ ?_⟩
      · rw [hcarry]
      · rw [hcarry, results_append, hquiet, List.nil_append, results_delivery]
    · rw [hdeliver] at hcarry
      refine .inl ⟨undone_run (e := e) ?_ ?_, fun _ _ _ _ => himpossible⟩
      · rw [hcarry]
      · rw [hcarry, results_append, hquiet, List.nil_append]
        rfl

theorem exists_render_of_given {command : Command} (hjob : command.job? = some job)
    (hgiven : job.entries = .given path fields) :
    ∃ escape, command = .render job.source job.orgDid fields path job.output escape := by
  cases command with
  | render source orgDid values form output escape =>
    cases hjob
    cases hgiven
    exact ⟨escape, rfl⟩
  | fill source orgDid output =>
    cases hjob
    cases hgiven
  | _ => cases hjob

/-- The values of a form: of the fields under a name the last one, else that of the file. -/
theorem Entries.Make.get? (h : (Entries.given path fields).Make w t form) :
    ∃ base, HoldsForm w base path ∧ ∀ key,
      form.get? key =
        ((fields.filterMap (Text.under? key)).getLast?.map .string).or (base.get? key) := by
  obtain ⟨base, hbase, rfl⟩ := h
  refine ⟨base, hbase, fun key => ?_⟩
  have hunder : (Text.under? key ∘ fun field : String × String => (field.1, Json.string field.2)) =
      fun field => (Text.under? key field).map Json.string := by
    funext field
    by_cases hfield : field.1 = key <;> simp [Text.under?, hfield]
  rw [Json.Object.get?_overlay_eq_getLast?, List.filterMap_map, hunder, ← List.map_filterMap,
    List.getLast?_map]

/-- Every command line that issues a credential does so as a whole or not at all. Either it exits
    with 1, has printed and written nothing but what is logged and asked, and there is no credential
    that can be rendered and delivered; or it exits with 0, and what it has printed, or written to
    the one file that is named, is the spread form of the body that the library renders of the
    template that was loaded, for the issuer given. That text is read as the body again if its
    magnitudes are read back. The form has the members of the file, and over them the fields of the
    line, of which the last under a name counts and each is split at its first equals sign. -/
theorem run_all_or_nothing (hargs : Invocation.ofArguments w.orgDid args = .ok i)
    (hjob : i.command.job? = some job) :
    (((run w args).Undone ∧
        ∀ t form cred, job.Renders w t form cred → ¬Deliverable w job.output) ∨
      (Deliverable w job.output ∧ ∃ t form cred, job.Renders w t form cred ∧
        (run w args).Delivered job.output (Json.spreadText (.object cred.body)) ∧
        cred.body.get? "issuer" = some (.string job.orgDid) ∧
        ((∀ negative x, .number (.float negative x) ∈ (Json.object cred.body).leaves →
            (Json.Number.float negative x).ReadsBack) →
          Json.parse (Json.spreadText (.object cred.body)).toList = .ok (.object cred.body)) ∧
        ∀ path fields, job.entries = .given path fields →
          ∃ base, HoldsForm w base path ∧ ∀ key, form.get? key =
            ((fields.filterMap (Text.under? key)).getLast?.map .string).or (base.get? key))) ∧
    ∀ path fields, job.entries = .given path fields →
      ∃ options given escape, options <:+ args.map String.toList ∧
        readOptions renderOptions {} options = .ok given ∧
        GivesRender w.orgDid given job.source job.orgDid fields path job.output escape := by
  rw [run_of_ofArguments hargs]
  refine ⟨?_, fun path fields hgiven => ?_⟩
  · rcases Invocation.run_cases (w := w) hjob with hundone |
      ⟨hpossible, t, form, cred, hrenders, hdelivered⟩
    · exact .inl hundone
    · refine .inr ⟨hpossible, t, form, cred, hrenders, hdelivered, ?_, ?_, ?_⟩
      · exact (Renderer.finished_of_outcome hrenders.renders).1.issuer
      · intro hmagnitudes
        rw [Json.spreadText, String.toList_ofList]
        exact Renderer.parse_spread_of_outcome hrenders.renders hmagnitudes
      · intro path fields hgiven
        have hmakes := hrenders.makes
        rw [hgiven] at hmakes
        exact hmakes.get?
  · obtain ⟨escape, hcommand⟩ := exists_render_of_given hjob hgiven
    obtain ⟨options, given, hsuffix, hoptions, hgives⟩ := exists_given_of_ofArguments hargs hcommand
    exact ⟨options, given, escape, hsuffix, hoptions, hgives⟩

/-! ### Runs to look at -/

namespace Specimen

/-- A folder with a template, a form, and a file to write over. -/
def folder : Folder :=
  .ofFiles
    [("card.wpml", "@key: card\n@name: Card\n[fields]\nname:text:Name:required\n[body]\n" ++
        r#"{"name":"{{name}}","note":"{{note}}","level":{{level}}}"#),
      ("form.json", r#"{"name":"Ada","level":1}"#), ("out.json", "old")]

/-- A world with a folder, a clock that stands still, and ids in order. -/
def world (folder : Folder) : World :=
  { files := folder.fileSystem, clock := fun _ => ⟨0, 0⟩, ids := sequentialIds }

/-- A command line that gives a value with an equals sign in it, and a field twice. -/
def line : List String :=
  ["render", "-t", "card.wpml", "--org-did=did:web:school", "--form", "form.json", "-f", "note=a=b",
    "-flevel=2", "--field", "level=3", "-o", "out.json"]

/-- The fields on the line. -/
def pairs : List (String × String) := [("note", "a=b"), ("level", "2"), ("level", "3")]

/-- What the line is read as. -/
def invocation : Invocation :=
  ⟨.render (.file "card.wpml") "did:web:school" pairs (some "form.json") (some "out.json") false,
    false⟩

/-- The credential that the line asks for. -/
def wanted : Job :=
  ⟨.file "card.wpml", "did:web:school", .given (some "form.json") pairs, some "out.json",
    .verbatim⟩

theorem ofArguments_line :
    Invocation.ofArguments (world folder).orgDid line = .ok invocation :=
  toOption_eq_some_iff.mp (by decide +kernel)

theorem job?_invocation : invocation.command.job? = some wanted := rfl

/-- What the line writes. -/
def printed : String :=
  r#"{
  "name": "Ada",
  "note": "a=b",
  "level": 3,
  "issuer": "did:web:school",
  "@context": [
    "https://www.w3.org/2018/credentials/v1"
  ],
  "issuanceDate": "1970-01-01T00:00:00Z",
  "jti": "vc-0-id2"
}"#

/-- The numbers in a value. -/
def numbers (v : Json) : List Json.Number :=
  v.leaves.filterMap fun
    | .number n => some n
    | _ => none

theorem mem_numbers {v : Json} {n : Json.Number} (h : .number n ∈ v.leaves) : n ∈ numbers v :=
  List.mem_filterMap.mpr ⟨.number n, h, rfl⟩

/-- What a job comes to, looked at in one way. -/
theorem exists_renders {w : World} {job : Job} {α : Type} {look : Credential → α} {a : α}
    (h : (job.issue w).outcome.toOption.map look = some a) :
    ∃ t form cred, job.Renders w t form cred ∧ look cred = a := by
  obtain ⟨cred, hcred, hlook⟩ := Option.map_eq_some_iff.mp h
  obtain ⟨t, form, hrenders⟩ := Job.outcome_issue_eq_ok_iff.mp (toOption_eq_some_iff.mp hcred)
  exact ⟨t, form, cred, hrenders, hlook⟩

end Specimen

/-- The file is written over with a text that is read as the body, the form stays as it was, and of
    the field that is given twice the last value counts. -/
theorem run_all_or_nothing_specimen :
    (run (Specimen.world Specimen.folder) Specimen.line).exitCode = 0 ∧
    ((run (Specimen.world Specimen.folder) Specimen.line).folderAfter Specimen.folder).text?
      ["out.json".toList] = some Specimen.printed ∧
    ((run (Specimen.world Specimen.folder) Specimen.line).folderAfter Specimen.folder).text?
      ["form.json".toList] = Specimen.folder.text? ["form.json".toList] ∧
    (∃ body : Json.Object, Json.parse Specimen.printed.toList = .ok (.object body) ∧
      body.get? "issuer" = some (.string "did:web:school")) ∧
    ∃ t form cred, Specimen.wanted.Renders (Specimen.world Specimen.folder) t form cred ∧
      form.get? "level" = some (.string "3") := by
  have hissue : (Specimen.wanted.issue (Specimen.world Specimen.folder)).outcome.toOption.map
      (fun cred => (Json.spreadText (.object cred.body), Specimen.numbers (.object cred.body))) =
        some (Specimen.printed, [.whole 3]) := by
    decide +kernel
  obtain ⟨t, form, cred, hrenders, hlook⟩ := Specimen.exists_renders hissue
  have htarget : Specimen.folder.target "out.json" = .ok (some ["out.json".toList]) := rfl
  obtain ⟨h, -⟩ := run_all_or_nothing Specimen.ofArguments_line Specimen.job?_invocation
  rcases h with ⟨-, hnone⟩ | ⟨-, t', form', cred', hrenders', hdelivered, hissuer, hparse, hform⟩
  · refine absurd (fun path hpath => ?_) (hnone t form cred hrenders)
    cases hpath
    rfl
  · obtain rfl := hrenders.credential_eq hrenders'
    obtain ⟨hprinted, hnumbers⟩ := Prod.mk.inj hlook
    rw [hprinted] at hdelivered hparse
    refine ⟨hdelivered.exitCode, hdelivered.target _ _ _ rfl htarget, hdelivered.others _ _ ?_,
      ⟨cred'.body, hparse ?_, hissuer⟩, t', form', cred', hrenders', ?_⟩
    · intro path hpath hother
      cases hpath
      rw [htarget] at hother
      exact absurd hother (by decide)
    · intro negative x hx
      have hmem := Specimen.mem_numbers hx
      rw [hnumbers] at hmem
      cases List.mem_singleton.mp hmem
    · obtain ⟨base, -, hget⟩ := hform _ _ rfl
      exact hget "level"

namespace Specimen

/-- A folder with a template whose body has a very small number. -/
def smallFolder : Folder :=
  .ofFiles [("c.wpml", "@key: c\n@name: C\n[body]\n" ++
    r#"{"a":1e-24,"jti":"fixed","issuanceDate":"2020-01-01"}"# ++ "\n")]

/-- A command line that prints the credential. -/
def smallLine : List String := ["render", "--org-did", "did:o", "-t", "c.wpml"]

/-- The credential that the line asks for. -/
def smallWanted : Job := ⟨.file "c.wpml", "did:o", .given none [], none, .verbatim⟩

/-- What the line is read as. -/
def smallInvocation : Invocation :=
  ⟨.render (.file "c.wpml") "did:o" [] none none false, false⟩

theorem ofArguments_smallLine :
    Invocation.ofArguments (world smallFolder).orgDid smallLine = .ok smallInvocation :=
  toOption_eq_some_iff.mp (by decide +kernel)

theorem job?_smallInvocation : smallInvocation.command.job? = some smallWanted := rfl

end Specimen

/-- What is printed need not be read as the body: the number read for `1e-24` is written with
    digits that another number is read for. -/
theorem run_prints_unread :
    ∃ t form cred, Specimen.smallWanted.Renders (Specimen.world Specimen.smallFolder) t form cred ∧
      (run (Specimen.world Specimen.smallFolder) Specimen.smallLine).Delivered none
        (Json.spreadText (.object cred.body)) ∧
      Json.parse (Json.spreadText (.object cred.body)).toList ≠ .ok (.object cred.body) := by
  have hissue : (Specimen.smallWanted.issue
      (Specimen.world Specimen.smallFolder)).outcome.toOption.map (fun cred =>
        (Json.parse (Json.spreadText (.object cred.body)).toList).toOption.map Specimen.numbers ==
          some (Specimen.numbers (.object cred.body))) = some false := by
    decide +kernel
  obtain ⟨t, form, cred, hrenders, hlook⟩ := Specimen.exists_renders hissue
  rw [run_of_ofArguments Specimen.ofArguments_smallLine]
  rcases Invocation.run_cases (w := Specimen.world Specimen.smallFolder)
    Specimen.job?_smallInvocation with ⟨-, hnone⟩ | ⟨-, t', form', cred', hrenders', hdelivered⟩
  · exact absurd (fun path hpath => by cases hpath) (hnone t form cred hrenders)
  · obtain rfl := hrenders.credential_eq hrenders'
    refine ⟨t, form, cred', hrenders, hdelivered, fun hparse => ?_⟩
    rw [hparse] at hlook
    simp [Except.toOption] at hlook

end Issuance.Cli
