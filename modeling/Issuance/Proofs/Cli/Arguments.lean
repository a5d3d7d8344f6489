import Issuance.Cli.Invocation
import Issuance.Proofs.Json.Reading
import Issuance.Proofs.Text.Cutting

/-! # What is given on a command line

    An option is noted with its value only if the command has it and it takes the value. An argument
    keeps that true of everything noted so far, so it holds of what a whole line gives. A rendering
    takes its fields from there: each holds an equals sign, and is split at the first. -/

namespace Issuance.Cli

variable {specs : List OptionSpec} {given given' : List Given} {p p' : Progress}

/-! ### Options -/

/-- Every option noted is one of those there are, and takes its value. -/
def Taken (specs : List OptionSpec) (given : List Given) : Prop :=
  ∀ g ∈ given, ∃ o ∈ specs, o.long = g.long ∧ o.accepts g.value = true

/-- What a line may have come to so far: options taken, and one of those there are waiting. -/
structure Progress.Sound (specs : List OptionSpec) (p : Progress) : Prop where
  taken : Taken specs p.given
  waiting : ∀ o, p.waiting = some o → o ∈ specs

theorem Taken.give (h : Taken specs given) {o : OptionSpec} (ho : o ∈ specs) {value : List Char}
    (hgive : give o value given = .ok given') : Taken specs given' := by
  rw [Cli.give] at hgive
  split_ifs at hgive with _ haccepts
  cases hgive
  intro g hg
  rcases List.mem_append.mp hg with hg | hg
  · exact h g hg
  · rw [List.mem_singleton.mp hg]
    exact ⟨o, ho, rfl, haccepts⟩

/-- Noting an option leaves none waiting. -/
theorem Taken.sound_give (h : Taken specs given) {o : OptionSpec} (ho : o ∈ specs)
    {value : List Char} (hgive : (Cli.give o value given).map (fun g => ⟨g, none⟩) = .ok p) :
    p.Sound specs := by
  cases hnoted : Cli.give o value given with
  | error stop => rw [hnoted] at hgive; cases hgive
  | ok noted =>
    rw [hnoted] at hgive
    cases hgive
    exact ⟨h.give ho hnoted, nofun⟩

/-- An option may wait for its value. -/
theorem Taken.sound_wait (h : Taken specs given) {o : OptionSpec} (ho : o ∈ specs) :
    Progress.Sound specs ⟨given, some o⟩ :=
  ⟨h, fun _ hwaits => Option.some.inj hwaits ▸ ho⟩

theorem Taken.sound_readLong (h : Taken specs given) {name : List Char} {value : Option (List Char)}
    (hread : readLong specs name value given = .ok p) : p.Sound specs := by
  rw [readLong] at hread
  split at hread
  · cases hread
  · next o hfind =>
    have ho : o ∈ specs := List.mem_of_find?_eq_some hfind
    split at hread
    · cases hread
    · exact h.sound_give ho hread
    · cases hread
    · cases hread
    · cases hread
      exact h.sound_wait ho
    · exact h.sound_give ho hread

/-- Letters are read one by one; a flag among them is noted before the next is read. -/
theorem Taken.sound_readShort : ∀ {letters : List Char} {given : List Given}, Taken specs given →
    readShort specs letters given = .ok p → p.Sound specs
  | [], given, h, hread => by
    cases hread
    exact ⟨h, nofun⟩
  | c :: rest, given, h, hread => by
    rw [readShort] at hread
    split at hread
    · cases hread
    · next o hfind =>
      have ho : o ∈ specs := List.mem_of_find?_eq_some hfind
      split at hread
      · cases hread
      · split at hread
        · cases hread
        · next noted hnoted => exact Taken.sound_readShort (h.give ho hnoted) hread
      · split_ifs at hread
        · cases hread
          exact h.sound_wait ho
        · exact h.sound_give ho hread

/-- One argument keeps what has come of a line sound. -/
theorem Progress.Sound.readArgument (h : p.Sound specs) {arg : List Char}
    (hread : readArgument specs p arg = .ok p') : p'.Sound specs := by
  rw [Cli.readArgument] at hread
  split at hread
  · next text o _ hwaits => exact h.taken.sound_give (h.waiting o hwaits) hread
  · cases hread
  · cases hread
  · cases hread
  · exact h.taken.sound_readLong hread
  · exact h.taken.sound_readShort hread

/-- What a line gives is taken. -/
theorem Progress.Sound.taken_readOptions : ∀ {args : List (List Char)} {p : Progress},
    p.Sound specs → readOptions specs p args = .ok given → Taken specs given
  | [], p, h, hread => by
    rw [readOptions] at hread
    split_ifs at hread
    cases hread
    exact h.taken
  | arg :: rest, p, h, hread => by
    rw [readOptions] at hread
    split_ifs at hread
    · cases hread
      exact h.taken
    · split at hread
      · cases hread
      · next p' hnext => exact taken_readOptions (h.readArgument hnext) hread

theorem taken_of_readOptions {args : List (List Char)}
    (h : readOptions specs {} args = .ok given) : Taken specs given :=
  have hnothing : Progress.Sound specs {} :=
    ⟨fun _ hg => absurd hg List.not_mem_nil, fun _ hwaits => by cases hwaits⟩
  hnothing.taken_readOptions h

/-! ### Fields -/

/-- An option's value is a name and a value, parted by its first equals sign. -/
def Given.Holds (g : Given) (field : String × String) : Prop :=
  g.value = field.1.toList ++ '=' :: field.2.toList ∧ '=' ∉ field.1.toList

theorem pair?_eq_some_iff {g : Given} {field : String × String} :
    pair? g.value = some field ↔ g.Holds field := by
  obtain ⟨name, value⟩ := field
  rw [pair?, Given.Holds, Option.map_eq_some_iff]
  constructor
  · rintro ⟨⟨front, back⟩, hcut, hfield⟩
    cases hfield
    rw [String.toList_ofList, String.toList_ofList]
    exact Text.cut_eq_some_iff.mp hcut
  · intro hholds
    refine ⟨(name.toList, value.toList), Text.cut_eq_some_iff.mpr hholds, ?_⟩
    rw [String.ofList_toList, String.ofList_toList]

theorem accepts_field {o : OptionSpec} (ho : o ∈ renderOptions) (hlong : o.long = "field")
    (value : List Char) : o.accepts value = (pair? value).isSome := by
  simp only [renderOptions, commonOptions, sourceOptions, orgOption, outputOption, List.cons_append,
    List.nil_append, List.mem_cons, List.not_mem_nil, or_false] at ho
  rcases ho with rfl | rfl | rfl | rfl | rfl | rfl | rfl | rfl | rfl <;>
    first | rfl | exact absurd hlong (by decide)

/-- The fields of a rendering are those given on the line, in their order. -/
theorem Taken.forall₂_pairsOf (h : Taken renderOptions given) :
    List.Forall₂ Given.Holds (given.filter fun g => g.long == "field") (pairsOf given) := by
  have hall : ∀ g ∈ given.filter (fun g => g.long == "field"),
      ∃ field, pair? g.value = some field := by
    intro g hg
    obtain ⟨hmem, hlong⟩ := List.mem_filter.mp hg
    obtain ⟨o, ho, hname, haccepts⟩ := h g hmem
    rw [accepts_field ho (hname.trans (beq_iff_eq.mp hlong))] at haccepts
    exact Option.isSome_iff_exists.mp haccepts
  rw [pairsOf]
  generalize given.filter (fun g => g.long == "field") = fields at hall ⊢
  induction fields with
  | nil => exact .nil
  | cons g rest ih =>
    obtain ⟨⟨field, hfield⟩, hrest⟩ := List.forall_mem_cons.mp hall
    rw [List.filterMap_cons_some (f := fun g : Given => pair? g.value) hfield]
    exact .cons (pair?_eq_some_iff.mp hfield) (ih hrest)

/-! ### Renderings -/

/-- What a rendering takes from the options that were given, and from the environment. -/
structure GivesRender (environment : Option String) (given : List Given) (source : TemplateSource)
    (did : String) (fields : List (String × String)) (form output : Option String)
    (escape : Bool) : Prop where
  source : sourceOf given = .ok source
  orgDid : orgDidOf environment given = .ok did
  form : valueOf? "form" given = form
  output : valueOf? "output" given = output
  escape : wasGiven "escape" given = escape
  fields : List.Forall₂ Given.Holds (given.filter fun g => g.long == "field") fields

variable {environment : Option String} {args : List (List Char)} {i : Invocation}
  {source : TemplateSource} {did : String} {fields : List (String × String)}
  {form output : Option String} {verbose escape : Bool}

theorem exists_command_of_readCommand {build : List Given → Except Stop Command}
    (h : readCommand specs args verbose build = .ok i) :
    ∃ given, readOptions specs {} args = .ok given ∧ build given = .ok i.command := by
  rw [readCommand] at h
  split at h
  · cases h
  · next given hgiven =>
    obtain ⟨command, hbuild, rfl⟩ := Json.map_eq_ok h
    exact ⟨given, hgiven, hbuild⟩

/-- Only the name of rendering is read as a rendering. -/
theorem exists_given_of_readNamed {name : String}
    (h : readNamed environment verbose name args = .ok i)
    (hrender : i.command = .render source did fields form output escape) :
    ∃ given, readOptions renderOptions {} args = .ok given ∧
      GivesRender environment given source did fields form output escape := by
  rw [readNamed] at h
  split_ifs at h
  · obtain ⟨given, hgiven, hbuild⟩ := exists_command_of_readCommand h
    obtain ⟨source', hsource, hbuild⟩ := Json.bind_eq_ok hbuild
    obtain ⟨did', hdid, hbuild⟩ := Json.bind_eq_ok hbuild
    rw [hrender] at hbuild
    cases hbuild
    exact ⟨given, hgiven, hsource, hdid, rfl, rfl, rfl,
      (taken_of_readOptions hgiven).forall₂_pairsOf⟩
  · obtain ⟨given, -, hbuild⟩ := exists_command_of_readCommand h
    obtain ⟨source', -, hbuild⟩ := Json.bind_eq_ok hbuild
    obtain ⟨did', -, hbuild⟩ := Json.bind_eq_ok hbuild
    rw [hrender] at hbuild
    cases hbuild
  · obtain ⟨given, -, hbuild⟩ := exists_command_of_readCommand h
    obtain ⟨source', -, hbuild⟩ := Json.map_eq_ok hbuild
    rw [hrender] at hbuild
    cases hbuild
  · obtain ⟨given, -, hbuild⟩ := exists_command_of_readCommand h
    rw [hrender] at hbuild
    cases hbuild
  · obtain ⟨given, -, hbuild⟩ := exists_command_of_readCommand h
    rw [hrender] at hbuild
    cases hbuild

theorem exists_given_of_readLine : ∀ {args : List (List Char)} {given : List Given},
    readLine environment given args = .ok i →
    i.command = .render source did fields form output escape →
    ∃ options given, options <:+ args ∧ readOptions renderOptions {} options = .ok given ∧
      GivesRender environment given source did fields form output escape
  | [], _, h, _ => by cases h
  | arg :: rest, given, h, hrender => by
    rw [readLine] at h
    split at h
    · split_ifs at h
      obtain ⟨given, hgiven, hgives⟩ := exists_given_of_readNamed h hrender
      exact ⟨rest, given, List.suffix_cons arg rest, hgiven, hgives⟩
    · split at h
      · cases h
      · obtain ⟨options, given, hsuffix, hrest⟩ := exists_given_of_readLine h hrender
        exact ⟨options, given, hsuffix.trans (List.suffix_cons arg rest), hrest⟩

/-- A command line that is read as a rendering gives its options behind the name of the command. -/
theorem exists_given_of_ofArguments {args : List String}
    (h : Invocation.ofArguments environment args = .ok i)
    (hrender : i.command = .render source did fields form output escape) :
    ∃ options given, options <:+ args.map String.toList ∧
      readOptions renderOptions {} options = .ok given ∧
      GivesRender environment given source did fields form output escape :=
  exists_given_of_readLine h hrender

end Issuance.Cli
