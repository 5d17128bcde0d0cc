import NfsVolume.Proofs.Text.Lines
import NfsVolume.Proofs.Text.Strip
import NfsVolume.Settings.Ini

/-! A settings file of one section: its options are read in their order, with the values that are
written for them. -/
namespace NfsVolume.Ini

open Text

/-- A name that stands for itself in a line. -/
structure IsName (name : Text) : Prop where
  filled : name ≠ []
  lower : name.lower = name
  visible : ∀ c ∈ name, isBlank c = false
  plain : ∀ c ∈ name, isDelimiter c = false
  start : ∀ c ∈ name.head?, c ≠ '#' ∧ c ≠ ';' ∧ c ≠ '['

/-- The line `name = value`. -/
def optionLine (name value : Text) : Text := name ++ ([' ', '='] ++ ' ' :: value)

def headerLine (name : Text) : Text := '[' :: (name ++ [']'])

/-- A line without content. -/
inductive IsFiller : Text → Prop
  | blank (line : Text) (h : ∀ c ∈ line, isBlank c = true) : IsFiller line
  | comment (before : Text) (mark : Char) (behind : Text) (hmark : mark = '#' ∨ mark = ';')
      (h : ∀ c ∈ before, isBlank c = true) : IsFiller (before ++ mark :: behind)

/-- Options in lines of their own, with fillers between them. -/
inductive Body : List (Text × Text) → List Text → Prop
  | nil : Body [] []
  | filler (options : List (Text × Text)) (line : Text) (lines : List Text) (h : IsFiller line)
      (hsingle : IsSingle line) (hrest : Body options lines) : Body options (line :: lines)
  | option (name value : Text) (options : List (Text × Text)) (lines : List Text)
      (hrest : Body options lines) :
      Body ((name, value) :: options) (optionLine name value :: lines)

theorem Body.single {options : List (Text × Text)} {lines : List Text} (h : Body options lines)
    (hnames : ∀ o ∈ options, IsName o.1) (hvalues : ∀ o ∈ options, IsSingle o.2) :
    ∀ line ∈ lines, IsSingle line := by
  induction h with
  | nil => simp
  | filler options line lines _ hsingle _ ih =>
    exact List.forall_mem_cons.mpr ⟨hsingle, ih hnames hvalues⟩
  | option name value options lines _ ih =>
    have hname := isSingle_of_visible (hnames _ List.mem_cons_self).visible
    have hvalue := hvalues _ List.mem_cons_self
    refine List.forall_mem_cons.mpr ⟨hname.append ?_, ih
      (fun o ho => hnames o (List.mem_cons_of_mem _ ho))
      fun o ho => hvalues o (List.mem_cons_of_mem _ ho)⟩
    exact IsSingle.append (s := [' ', '=', ' ']) ⟨by decide, by decide⟩ hvalue

theorem headerLine_single {name : Text} (h : IsSingle name) : IsSingle (headerLine name) :=
  IsSingle.append (s := ['[']) ⟨by decide, by decide⟩ (h.append ⟨by decide, by decide⟩)

/-- One section has been read so far, with values for its options. -/
structure Holds (heading : Text) (values : List (Text × Text)) (s : State) : Prop where
  sections : ∃ options, s.sections = [⟨heading, options⟩] ∧
    options.map (fun o => (o.1, valueText o.2)) = values
  defaults : s.defaults = []
  inDefaults : s.inDefaults = false
  indent : s.indent = 0
  bad : s.bad = []

variable {heading name value line read file : Text} {values : List (Text × Text)} {s : State}
  {number : Nat}

theorem strip_of_isRead (h : IsRead line read) : strip read = strip line := by
  rcases h with rfl | rfl
  · rfl
  · exact strip_append_blank (List.forall_mem_singleton.mpr rfl) line

/-- An empty line at the end of a value does not count. -/
theorem valueText_append_nil (lines : List Text) : valueText (lines ++ [[]]) = valueText lines := by
  have hjoin : ∃ stop : Text, (∀ c ∈ stop, isBlank c = true) ∧
      join "\n" (lines ++ [[]]) = join "\n" lines ++ stop := by
    induction lines with
    | nil => exact ⟨[], by simp, rfl⟩
    | cons line rest ih =>
      cases rest with
      | nil => exact ⟨['\n'], List.forall_mem_singleton.mpr rfl, by simp [join]⟩
      | cons next more =>
        obtain ⟨stop, hstop, hrest⟩ := ih
        refine ⟨stop, hstop, ?_⟩
        simp only [List.cons_append] at hrest ⊢
        rw [join_cons_cons, hrest, join_cons_cons]
        simp only [List.append_assoc]
  obtain ⟨stop, hstop, hjoin⟩ := hjoin
  rw [valueText, hjoin]
  exact dropEndWhile_append hstop _

theorem extend_nil_values (name : Text) (options : Options) :
    (extend name [] options).map (fun o => (o.1, valueText o.2)) =
      options.map fun o => (o.1, valueText o.2) := by
  induction options with
  | nil => rfl
  | cons option rest ih =>
    obtain ⟨key, lines⟩ := option
    by_cases hkey : key = name
    · simp [extend, hkey, valueText_append_nil]
    · simp [extend, hkey, ih]

theorem Holds.options? (h : Holds heading values s) :
    ∃ options, s.options? = some options ∧ s.sections = [⟨heading, options⟩] ∧
      options.map (fun o => (o.1, valueText o.2)) = values := by
  obtain ⟨options, hsections, hvalues⟩ := h.sections
  refine ⟨options, ?_, hsections, hvalues⟩
  rw [State.options?, h.inDefaults, hsections]
  rfl

theorem Holds.withOptions (h : Holds heading values s) (options : Options) :
    Holds heading (options.map fun o => (o.1, valueText o.2)) (s.withOptions options) := by
  obtain ⟨old, hsections, -⟩ := h.sections
  have hwith : s.withOptions options = { s with sections := [⟨heading, options⟩] } := by
    rw [State.withOptions, h.inDefaults, hsections]
    rfl
  rw [hwith]
  exact ⟨⟨options, rfl, rfl⟩, h.defaults, h.inDefaults, h.indent, h.bad⟩

theorem Holds.continueValue_nil (h : Holds heading values s) :
    Holds heading values (s.continueValue []) := by
  obtain ⟨options, hoptions, -, hvalues⟩ := h.options?
  rw [State.continueValue, hoptions]
  cases s.option with
  | none => exact h
  | some name =>
    have hwith := h.withOptions (extend name [] options)
    rwa [extend_nil_values, hvalues] at hwith

theorem readLine_filler (file : Text) (number : Nat) (hline : IsFiller line) (hread : IsRead line read)
    (h : Holds heading values s) :
    ∃ t, readLine file number read s = .ok t ∧ Holds heading values t := by
  unfold readLine
  rw [strip_of_isRead hread]
  cases hline with
  | blank _ hblank =>
    rw [strip_of_blank hblank]
    exact ⟨_, rfl, h.continueValue_nil⟩
  | comment before mark behind hmark hbefore =>
    have hvisible : isBlank mark = false := by
      rcases hmark with rfl | rfl <;> decide
    have htrim : IsTrim [mark] := isTrim_of_visible (by simpa using hvisible)
    have hstrip : strip (before ++ mark :: behind) = mark :: stripEnd behind :=
      (strip_blank_append hbefore _).trans (strip_append htrim (List.cons_ne_nil _ _) behind)
    have hcomment : isComment (mark :: stripEnd behind) = true := by
      rcases hmark with rfl | rfl <;> rfl
    rw [hstrip, hcomment]
    exact ⟨s, rfl, h⟩

theorem cutWhere?_append {p : Char → Bool} {c : Char} (t : Text) (hs : ∀ d ∈ name, p d = false)
    (hc : p c = true) : cutWhere? p (name ++ c :: t) = some (name, c, t) := by
  induction name with
  | nil => simp [cutWhere?, hc]
  | cons d rest ih =>
    rw [List.cons_append, cutWhere?, hs d List.mem_cons_self,
      ih fun e he => hs e (List.mem_cons_of_mem _ he)]
    rfl

theorem IsName.trim_equals (h : IsName name) : IsTrim (name ++ [' ', '=']) :=
  (isTrim_of_visible h.visible).append (isTrim_of_visible (List.forall_mem_singleton.mpr rfl))
    h.filled (List.cons_ne_nil '=' []) [' ']

theorem strip_optionLine (h : IsName name) (value : Text) :
    strip (optionLine name value) = name ++ ([' ', '='] ++ stripEnd (' ' :: value)) := by
  rw [optionLine, ← List.append_assoc, strip_append h.trim_equals (by simp), List.append_assoc]

/-- A value is read behind its delimiter, with or without the blank between them. -/
theorem option?_optionLine (h : IsName name) (hvalue : IsTrim value) :
    option? (strip (optionLine name value)) = some (name, value) := by
  have hname : stripEnd (name ++ [' ']) = name := by
    have hspace : stripEnd [' '] = [] := rfl
    rw [stripEnd, dropEndWhile_append_of_last h.filled (isTrim_of_visible h.visible).last,
      ← stripEnd, hspace, List.append_nil]
  have hbehind : strip (stripEnd (' ' :: value)) = value := by
    rw [strip_stripEnd]
    have hspace : ∀ c ∈ [' '], isBlank c = true := List.forall_mem_singleton.mpr rfl
    exact (strip_blank_append hspace value).trans hvalue.strip_eq
  have hplain : ∀ c ∈ name ++ [' '], isDelimiter c = false := by
    intro c hc
    rcases List.mem_append.mp hc with hc | hc
    · exact h.plain c hc
    · rw [List.mem_singleton.mp hc]
      rfl
  have hcut := cutWhere?_append (p := isDelimiter) (c := '=') (stripEnd (' ' :: value)) hplain rfl
  rw [List.append_assoc] at hcut
  rw [strip_optionLine h, option?]
  simp only [List.cons_append, List.nil_append] at hcut ⊢
  rw [hcut]
  simp only [Option.map_some, hname, hbehind]

theorem IsName.head (h : IsName name) (t : Text) :
    ∃ c rest, name ++ t = c :: rest ∧ isBlank c = false ∧ c ≠ '#' ∧ c ≠ ';' ∧ c ≠ '[' := by
  obtain ⟨c, rest, rfl⟩ := List.exists_cons_of_ne_nil h.filled
  exact ⟨c, rest ++ t, rfl, h.visible c List.mem_cons_self, h.start c rfl⟩

theorem indent_optionLine (hname : IsName name) (hread : IsRead (optionLine name value) read) :
    (read.takeWhile isBlank).length = 0 := by
  obtain ⟨tail, rfl⟩ : ∃ tail, read = name ++ tail := by
    rcases hread with rfl | rfl
    · exact ⟨_, rfl⟩
    · exact ⟨_, List.append_assoc _ _ _⟩
  obtain ⟨c, rest, htail, hc, -⟩ := hname.head tail
  simp [htail, hc]

/-- A line of an option is nothing else. -/
theorem readLine_eq_addOption (hname : IsName name) (hvalue : IsTrim value)
    (hread : IsRead (optionLine name value) read) (h : Holds heading values s) {options : Options}
    (hoptions : s.options? = some options) :
    readLine file number read s = addOption file number s options name value := by
  obtain ⟨c, rest, hline, -, hhash, hsemicolon, hbracket⟩ :=
    hname.head ([' ', '='] ++ stripEnd (' ' :: value))
  have hstrip : strip read = c :: rest :=
    (strip_of_isRead hread).trans ((strip_optionLine hname value).trans hline)
  have hoption : option? (c :: rest) = some (name, value) := by
    rw [← hline, ← strip_optionLine hname value, option?_optionLine hname hvalue]
  have hcomment : isComment (c :: rest) = false := by
    simp [isComment, hhash, hsemicolon]
  have hheader : header? (c :: rest) = none := by
    unfold header?
    split
    · rename_i hline
      exact absurd (List.cons.inj hline).1 hbracket
    · rfl
  have hempty : name.isEmpty = false := by
    simpa using hname.filled
  have hsame : ({ s with indent := 0 } : State) = s := by
    rw [← h.indent]
  rw [readLine, hstrip, hcomment, indent_optionLine hname hread, readHead, hstrip, hheader, hsame,
    hoptions]
  dsimp only
  rw [hoption]
  dsimp only
  rw [hempty, hname.lower]
  simp

theorem readLine_option (file : Text) (number : Nat) (hname : IsName name) (hvalue : IsTrim value)
    (hread : IsRead (optionLine name value) read) (hnew : name ∉ values.map Prod.fst)
    (h : Holds heading values s) :
    ∃ t, readLine file number read s = .ok t ∧ Holds heading (values ++ [(name, value)]) t := by
  obtain ⟨options, hoptions, -, hvalues⟩ := h.options?
  have hfresh : options.any (fun o => o.1 = name) = false := by
    rw [List.any_eq_false]
    intro o ho hsame
    apply hnew
    rw [← hvalues, List.map_map]
    exact List.mem_map.mpr ⟨o, ho, of_decide_eq_true hsame⟩
  have htext : valueText [value] = value := hvalue.stripEnd_eq
  have hwith := h.withOptions (options ++ [(name, [value])])
  rw [List.map_append, hvalues, List.map_singleton, htext] at hwith
  rw [readLine_eq_addOption hname hvalue hread h hoptions, addOption, hfresh]
  exact ⟨_, rfl, hwith.sections, hwith.defaults, hwith.inDefaults, hwith.indent, hwith.bad⟩

theorem header?_headerLine (hname : heading ≠ []) : header? (headerLine heading) = some heading := by
  have hempty : heading.isEmpty = false := by
    simpa using hname
  simp [header?, headerLine, hempty]

theorem readLine_header (file : Text) (number : Nat) (hname : heading ≠ []) (hother : heading ≠ defaultName)
    (hread : IsRead (headerLine heading) read) :
    ∃ t, readLine file number read .start = .ok t ∧ Holds heading [] t := by
  have htrim : IsTrim (headerLine heading) :=
    (isTrim_of_visible (List.forall_mem_singleton.mpr rfl)).append
      (isTrim_of_visible (List.forall_mem_singleton.mpr rfl)) (List.cons_ne_nil '[' [])
      (List.cons_ne_nil ']' []) heading
  have hstrip : strip read = headerLine heading := (strip_of_isRead hread).trans htrim.strip_eq
  have hindent : (read.takeWhile isBlank).length = 0 := by
    rcases hread with rfl | rfl <;> rfl
  have hhead : readHead file number read .start = .ok { State.start with
      sections := [⟨heading, []⟩] } := by
    rw [readHead, hstrip, header?_headerLine hname]
    exact if_neg hother
  refine ⟨{ State.start with sections := [⟨heading, []⟩] }, ?_, ⟨[], rfl, rfl⟩, rfl, rfl, rfl, rfl⟩
  rw [readLine, hstrip, hindent]
  exact hhead

/-- The lines of a section give it the options that they are written for. -/
theorem readLines_body (file : Text) (number : Nat) {options : List (Text × Text)}
    {lines reads : List Text} (hbody : Body options lines)
    (hreads : List.Forall₂ IsRead lines reads)
    (hnames : ∀ o ∈ options, IsName o.1) (hvalues : ∀ o ∈ options, IsTrim o.2)
    (hnodup : ((values ++ options).map Prod.fst).Nodup) (h : Holds heading values s) :
    ∃ t, readLines file number reads s = .ok t ∧ Holds heading (values ++ options) t := by
  induction hbody generalizing reads values s number with
  | nil =>
    cases hreads
    exact ⟨s, rfl, by simpa using h⟩
  | filler options line lines hline _ _ ih =>
    cases hreads with
    | cons hread hreads =>
      obtain ⟨t, hfirst, ht⟩ := readLine_filler file number hline hread h
      rw [readLines, hfirst]
      exact ih _ hreads hnames hvalues hnodup ht
  | option name value options lines _ ih =>
    cases hreads with
    | cons hread hreads =>
      rw [List.append_cons] at hnodup ⊢
      have hnew : name ∉ values.map Prod.fst := by
        rw [List.append_assoc, List.map_append, List.nodup_append] at hnodup
        exact fun hmem => hnodup.2.2 _ hmem _ (by simp) rfl
      obtain ⟨t, hfirst, ht⟩ := readLine_option file number (hnames _ List.mem_cons_self)
        (hvalues _ List.mem_cons_self) hread hnew h
      rw [readLines, hfirst]
      exact ih _ hreads (fun o ho => hnames o (List.mem_cons_of_mem _ ho))
        (fun o ho => hvalues o (List.mem_cons_of_mem _ ho)) hnodup ht

/-- A file of one section has the options that are written in it, and no others. -/
theorem readLines_written (file : Text) (number : Nat) {options : List (Text × Text)}
    {lines reads : List Text} (hname : heading ≠ []) (hother : heading ≠ defaultName)
    (hbody : Body options lines)
    (hreads : List.Forall₂ IsRead (headerLine heading :: lines) reads)
    (hnames : ∀ o ∈ options, IsName o.1) (hvalues : ∀ o ∈ options, IsTrim o.2)
    (hnodup : (options.map Prod.fst).Nodup) :
    ∃ t f, readLines file number reads .start = .ok t ∧ t.finish file = .ok f ∧
      f.values? heading = some options := by
  cases hreads with
  | cons hread hreads =>
    obtain ⟨s, hfirst, hs⟩ := readLine_header file number hname hother hread
    obtain ⟨t, hrest, ht⟩ := readLines_body file (number + 1) hbody hreads hnames hvalues
      (by rwa [List.nil_append]) hs
    obtain ⟨found, hsections, hfound⟩ := ht.sections
    refine ⟨t, ⟨t.sections.reverse, t.defaults⟩, ?_, ?_, ?_⟩
    · rw [readLines, hfirst]
      exact hrest
    · rw [State.finish, ht.bad]
      rfl
    · rw [File.values?, hsections, ht.defaults]
      simpa using hfound

end NfsVolume.Ini
