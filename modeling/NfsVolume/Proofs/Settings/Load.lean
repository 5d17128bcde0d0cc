import Mathlib.Data.List.Nodup
import NfsVolume.Proofs.Lookup
import NfsVolume.Proofs.Settings.Ini
import NfsVolume.Proofs.Settings.Reference
import NfsVolume.Proofs.Text.Case
import NfsVolume.Proofs.Text.Numeral
import NfsVolume.Proofs.Text.Pages
import NfsVolume.Proofs.World.Circumstances

/-! Settings that are written to a file are loaded from it, and all others keep their standard
values. -/
namespace NfsVolume.Settings

open Text
open Text.Integer (IsNumeral)

/-- The settings that are texts. -/
inductive TextKey where
  | exportDirectory | ganeshaFile | exportsFile | annotationsFile | podIpVariable | serviceVariable
  | namespaceVariable | clusterUrl | tokenFile | bundleFile | host | logLevel
  deriving DecidableEq

inductive NumberKey where
  | clusterTimeout | port
  deriving DecidableEq

inductive Key where
  | text (key : TextKey)
  | number (key : NumberKey)
  | useGanesha
  deriving DecidableEq

def TextKey.name : TextKey → Text
  | .exportDirectory => "export_dir"
  | .ganeshaFile => "ganesha_config"
  | .exportsFile => "exports_file"
  | .annotationsFile => "annotations_file"
  | .podIpVariable => "pod_ip_env"
  | .serviceVariable => "service_env"
  | .namespaceVariable => "namespace_env"
  | .clusterUrl => "kube_api_url"
  | .tokenFile => "kube_token_file"
  | .bundleFile => "kube_ca_file"
  | .host => "api_host"
  | .logLevel => "log_level"

def NumberKey.name : NumberKey → Text
  | .clusterTimeout => "kube_timeout"
  | .port => "api_port"

/-- The name of a setting in its file. -/
def Key.name : Key → Text
  | .text key => key.name
  | .number key => key.name
  | .useGanesha => "use_ganesha"

def TextKey.get (s : Settings) : TextKey → Text
  | .exportDirectory => s.exportDirectory
  | .ganeshaFile => s.ganeshaFile
  | .exportsFile => s.exportsFile
  | .annotationsFile => s.annotationsFile
  | .podIpVariable => s.podIpVariable
  | .serviceVariable => s.serviceVariable
  | .namespaceVariable => s.namespaceVariable
  | .clusterUrl => s.clusterUrl
  | .tokenFile => s.tokenFile
  | .bundleFile => s.bundleFile
  | .host => s.host
  | .logLevel => s.logLevel

def TextKey.set (value : Text) (s : Settings) : TextKey → Settings
  | .exportDirectory => { s with exportDirectory := value }
  | .ganeshaFile => { s with ganeshaFile := value }
  | .exportsFile => { s with exportsFile := value }
  | .annotationsFile => { s with annotationsFile := value }
  | .podIpVariable => { s with podIpVariable := value }
  | .serviceVariable => { s with serviceVariable := value }
  | .namespaceVariable => { s with namespaceVariable := value }
  | .clusterUrl => { s with clusterUrl := value }
  | .tokenFile => { s with tokenFile := value }
  | .bundleFile => { s with bundleFile := value }
  | .host => { s with host := value }
  | .logLevel => { s with logLevel := value }

def NumberKey.get (s : Settings) : NumberKey → Int
  | .clusterTimeout => s.clusterTimeout
  | .port => s.port

def NumberKey.set (value : Int) (s : Settings) : NumberKey → Settings
  | .clusterTimeout => { s with clusterTimeout := value }
  | .port => { s with port := value }

def keys : List Key :=
  [.text .exportDirectory, .useGanesha, .text .ganeshaFile, .text .exportsFile,
    .text .annotationsFile, .text .podIpVariable, .text .serviceVariable, .text .namespaceVariable,
    .text .clusterUrl, .text .tokenFile, .text .bundleFile, .number .clusterTimeout, .text .host,
    .number .port, .text .logLevel]

theorem mem_keys (key : Key) : key ∈ keys := by
  rcases key with (_ | _ | _ | _ | _ | _ | _ | _ | _ | _ | _ | _) | (_ | _) | _ <;> decide

theorem name_injective {a b : Key} (h : a.name = b.name) : a = b := by
  have hnodup : (keys.map Key.name).Nodup := by decide
  exact List.inj_on_of_nodup_map hnodup (mem_keys a) (mem_keys b) h

theorem Key.isName (key : Key) : Ini.IsName key.name := by
  have hall : ∀ key ∈ keys, key.name ≠ [] ∧ key.name.lower = key.name ∧
      key.name.all (fun c => !isBlank c && !Ini.isDelimiter c) = true ∧
      key.name.head?.all (fun c => c ≠ '#' ∧ c ≠ ';' ∧ c ≠ '[') = true := by
    decide +kernel
  obtain ⟨hfilled, hlower, hplain, hstart⟩ := hall key (mem_keys key)
  have hplain : ∀ c ∈ key.name, isBlank c = false ∧ Ini.isDelimiter c = false := by
    simpa using hplain
  exact ⟨hfilled, hlower, fun c hc => (hplain c hc).1, fun c hc => (hplain c hc).2,
    fun c hc => of_decide_eq_true ((Option.all_eq_true _ _).mp hstart c hc)⟩

/-- What a file says of a setting: a number or a flag may be told by a word that stands for none. -/
inductive Entry where
  | text (key : TextKey) (value : Text)
  | number (key : NumberKey) (value : Option Int) (word : Text)
  | useGanesha (value : Option Bool) (word : Text)

namespace Entry

def key : Entry → Key
  | .text key _ => .text key
  | .number key _ _ => .number key
  | .useGanesha _ _ => .useGanesha

def word : Entry → Text
  | .text _ value => value
  | .number _ _ word => word
  | .useGanesha _ word => word

/-- The option that a file has for a setting. -/
def option (e : Entry) : Text × Text := (e.key.name, Ini.doubled e.word)

/-- The settings with the one of the entry replaced, by its standard value if the entry has none. -/
def assign : Entry → Settings → Settings
  | .text key value, s => key.set value s
  | .number key value _, s => key.set (value.getD (key.get standard)) s
  | .useGanesha value _, s => { s with useGanesha := value.getD standard.useGanesha }

end Entry

/-- The words for true and false, in letters of either case; other words are for neither. -/
inductive IsFlag (word : Text) : Option Bool → Prop
  | yes (h : word.map Char.toLower ∈ trueWords) : IsFlag word (some true)
  | no (h : word.map Char.toLower ∈ falseWords) : IsFlag word (some false)
  | none (hyes : word.map Char.toLower ∉ trueWords) (hno : word.map Char.toLower ∉ falseWords) :
      IsFlag word none

/-- The word of an entry stands for its value. -/
inductive Entry.Means : Entry → Prop
  | text (key : TextKey) (value : Text) (h : key = .logLevel → value.upper = value) :
      Means (.text key value)
  | number (key : NumberKey) (value : Option Int) (word : Text)
      (h : ∀ n, IsNumeral word n ↔ value = some n) : Means (.number key value word)
  | useGanesha (value : Option Bool) (word : Text) (h : IsFlag word value) :
      Means (.useGanesha value word)

structure Entry.IsSound (e : Entry) : Prop where
  strip : e.word.strip = e.word
  single : IsSingle e.word
  means : e.Means

def textOf (found : Key → Option Text) (key : TextKey) : Text :=
  ((found (.text key)).getD (key.get standard)).strip

def numberOf (found : Key → Option Text) (key : NumberKey) : Int :=
  match found (.number key) with
  | none => key.get standard
  | some raw => (Integer.read raw.strip).toOption.getD (key.get standard)

def flagOf (found : Key → Option Text) : Bool :=
  match found .useGanesha with
  | none => standard.useGanesha
  | some raw =>
    if trueWords.contains raw.strip.lower then true
      else if falseWords.contains raw.strip.lower then false else standard.useGanesha

/-- The settings that the words found for their keys make. -/
def settingsOf (found : Key → Option Text) : Settings where
  exportDirectory := textOf found .exportDirectory
  useGanesha := flagOf found
  ganeshaFile := textOf found .ganeshaFile
  exportsFile := textOf found .exportsFile
  annotationsFile := textOf found .annotationsFile
  podIpVariable := textOf found .podIpVariable
  serviceVariable := textOf found .serviceVariable
  namespaceVariable := textOf found .namespaceVariable
  clusterUrl := textOf found .clusterUrl
  tokenFile := textOf found .tokenFile
  bundleFile := textOf found .bundleFile
  clusterTimeout := numberOf found .clusterTimeout
  host := textOf found .host
  port := numberOf found .port
  logLevel := (textOf found .logLevel).upper

section
variable {values : List (Text × Text)} {found : Key → Option Text}
  (h : ∀ key : Key, Ini.value? sectionName values key.name = .ok (found key))
include h

theorem text_eq (key : TextKey) :
    text values key.name (key.get standard) = .ok (textOf found key) := by
  have hkey : Ini.value? sectionName values key.name = .ok (found (.text key)) := h (.text key)
  rw [text, hkey]
  rfl

theorem number_eq (key : NumberKey) :
    number values key.name (key.get standard) = .ok (numberOf found key) := by
  have hkey : Ini.value? sectionName values key.name = .ok (found (.number key)) := h (.number key)
  rw [number, hkey, numberOf]
  cases found (.number key) <;> rfl

theorem flag_eq :
    flag values Key.useGanesha.name standard.useGanesha = .ok (flagOf found) := by
  rw [flag, h .useGanesha, flagOf]
  cases found .useGanesha <;> rfl

theorem ofValues_eq : ofValues values = .ok (settingsOf found) := by
  have hbind {α : Type} {x : Except SettingsProblem α} {f : α → Except SettingsProblem Settings}
      {a : α} (hx : x = .ok a) (hf : f a = .ok (settingsOf found)) :
      x >>= f = .ok (settingsOf found) := by
    rw [hx]
    exact hf
  refine hbind (text_eq h .exportDirectory) (hbind (flag_eq h) ?_)
  refine hbind (text_eq h .ganeshaFile) (hbind (text_eq h .exportsFile) ?_)
  refine hbind (text_eq h .annotationsFile) (hbind (text_eq h .podIpVariable) ?_)
  refine hbind (text_eq h .serviceVariable) (hbind (text_eq h .namespaceVariable) ?_)
  refine hbind (text_eq h .clusterUrl) (hbind (text_eq h .tokenFile) ?_)
  refine hbind (text_eq h .bundleFile) (hbind (number_eq h .clusterTimeout) ?_)
  refine hbind (text_eq h .host) (hbind (number_eq h .port) ?_)
  exact hbind (text_eq h .logLevel) rfl

end

variable {found : Key → Option Text} {entries : List Entry} {e : Entry} {word : Text}

theorem flag_of_isFlag {value : Option Bool} (h : IsFlag word value) :
    (if trueWords.contains word.lower then true
      else if falseWords.contains word.lower then false else standard.useGanesha) =
      value.getD standard.useGanesha := by
  have hplain : ∀ t ∈ trueWords ++ falseWords,
      t.all (fun d => d.toNat < 0x80 ∧ d ≠ 'k' ∧ d ≠ 'i') = true := by
    decide
  have hplain : ∀ t ∈ trueWords ++ falseWords, ∀ d ∈ t, d.toNat < 0x80 ∧ d ≠ 'k' ∧ d ≠ 'i' :=
    fun t ht d hd => of_decide_eq_true (List.all_eq_true.mp (hplain t ht) d hd)
  have hyes := lower_mem_iff (fun t ht => hplain t (List.mem_append_left _ ht)) word
  have hno := lower_mem_iff (fun t ht => hplain t (List.mem_append_right _ ht)) word
  have hapart : ∀ t ∈ falseWords, t ∉ trueWords := by decide
  simp only [List.contains_iff_mem, hyes, hno]
  cases h with
  | yes h => simp [h]
  | no h => simp [h, hapart _ h]
  | none hyes hno => simp [hyes, hno]

/-- The word of a key is replaced by that of an entry. -/
def saying (e : Entry) (found : Key → Option Text) (key : Key) : Option Text :=
  if key = e.key then some e.word else found key

/-- An entry replaces the setting of its key and no other. -/
theorem settingsOf_saying (h : e.IsSound) (found : Key → Option Text) :
    settingsOf (saying e found) = e.assign (settingsOf found) := by
  obtain ⟨hstrip, -, hmeans⟩ := h
  cases hmeans with
  | text key value hlevel =>
    have hvalue : value.strip = value := hstrip
    cases key with
    | logLevel =>
      simp [settingsOf, textOf, numberOf, flagOf, saying, Entry.key, Entry.word, Entry.assign,
        TextKey.set, hvalue, hlevel]
    | _ =>
      simp [settingsOf, textOf, numberOf, flagOf, saying, Entry.key, Entry.word, Entry.assign,
        TextKey.set, hvalue]
  | number key value word hnumeral =>
    have hword : word.strip = word := hstrip
    have hread := Integer.read_toOption.mpr hnumeral
    cases key <;>
      simp [settingsOf, textOf, numberOf, flagOf, saying, Entry.key, Entry.word, Entry.assign,
        NumberKey.set, hword, hread]
  | useGanesha value word hflag =>
    have hword : word.strip = word := hstrip
    have hvalue := flag_of_isFlag hflag
    simp [settingsOf, textOf, numberOf, flagOf, saying, Entry.key, Entry.word, Entry.assign,
      hword, ← hvalue]

theorem settingsOf_nothing : settingsOf (fun _ => none) = standard := by
  decide +kernel

/-- The word of the first entry for a key. -/
def wordIn (entries : List Entry) (key : Key) : Option Text :=
  (entries.find? fun e => e.key = key).map Entry.word

theorem wordIn_cons (e : Entry) (entries : List Entry) :
    wordIn (e :: entries) = saying e (wordIn entries) := by
  funext key
  by_cases hkey : e.key = key
  · simp [wordIn, saying, hkey]
  · simp [wordIn, saying, hkey, Ne.symm hkey]

theorem settingsOf_wordIn (h : ∀ e ∈ entries, e.IsSound) :
    settingsOf (wordIn entries) = entries.foldr Entry.assign standard := by
  induction entries with
  | nil => exact settingsOf_nothing
  | cons e rest ih =>
    rw [wordIn_cons, settingsOf_saying (h e List.mem_cons_self),
      ih fun e he => h e (List.mem_cons_of_mem _ he), List.foldr_cons]

theorem lookup_option (entries : List Entry) (key : Key) :
    (entries.map Entry.option).lookup key.name = (wordIn entries key).map Ini.doubled := by
  induction entries with
  | nil => rfl
  | cons e rest ih =>
    rw [wordIn_cons, saying, List.map_cons, Entry.option, List.lookup_cons, ih]
    by_cases hkey : key = e.key
    · simp [hkey]
    · have hname : key.name ≠ e.key.name := fun hname => hkey (name_injective hname)
      simp [hkey, beq_false_of_ne hname]

theorem ofValues_options (h : ∀ e ∈ entries, e.IsSound) :
    ofValues (entries.map Entry.option) = .ok (entries.foldr Entry.assign standard) := by
  have hvalue : ∀ key : Key,
      Ini.value? sectionName (entries.map Entry.option) key.name = .ok (wordIn entries key) := by
    intro key
    have hlookup := lookup_option entries key
    cases hword : wordIn entries key with
    | none =>
      rw [hword] at hlookup
      rw [Ini.value?, hlookup]
      rfl
    | some word =>
      rw [hword] at hlookup
      exact Ini.value?_of_lookup hlookup
  rw [ofValues_eq hvalue, settingsOf_wordIn h]

/-- A file of the section with a line for each entry, in any order and with blank lines and comments
between them, is loaded as the standard settings with those of the entries replaced. -/
theorem load_written {w : World} {path : Text} {place : Place} {mode : Nat} {entries : List Entry}
    {lines : List Text} {content : Text} (hsound : ∀ e ∈ entries, e.IsSound)
    (hkeys : (entries.map Entry.key).Nodup) (hbody : Ini.Body (entries.map Entry.option) lines)
    (hcontent : Lined (Ini.headerLine sectionName :: lines) content)
    (hpath : filePath w = (.ok path, w)) (hnull : '\x00' ∉ path)
    (hfile : w.files.resolve path = .ok (place, .file mode (Utf8.encode content)))
    (hread : (Node.file mode (Utf8.encode content)).mayRead = true) :
    load w = (.ok (entries.foldr Entry.assign standard), w) := by
  have hnames : ∀ o ∈ entries.map Entry.option, Ini.IsName o.1 := by
    intro o ho
    obtain ⟨e, -, rfl⟩ := List.mem_map.mp ho
    exact e.key.isName
  have hvalues : ∀ o ∈ entries.map Entry.option, IsTrim o.2 ∧ IsSingle o.2 := by
    intro o ho
    obtain ⟨e, he, rfl⟩ := List.mem_map.mp ho
    exact ⟨Ini.doubled_isTrim (isTrim_of_strip_eq (hsound e he).strip),
      Ini.doubled_isSingle (hsound e he).single⟩
  have hnodup : ((entries.map Entry.option).map Prod.fst).Nodup := by
    have hmap : (entries.map Entry.option).map Prod.fst = (entries.map Entry.key).map Key.name := by
      simp only [List.map_map]
      rfl
    rw [hmap]
    exact hkeys.map fun a b => name_injective
  have hsingle : ∀ line ∈ Ini.headerLine sectionName :: lines, IsSingle line :=
    List.forall_mem_cons.mpr ⟨Ini.headerLine_single ⟨by decide, by decide⟩,
      hbody.single hnames fun o ho => (hvalues o ho).2⟩
  obtain ⟨state, file, hlines, hfinish, hfound⟩ := Ini.readLines_written path 1
    (by decide) (by decide) hbody (lines_of_lined hcontent hsingle) hnames
    (fun o ho => (hvalues o ho).1) hnodup
  have hini : iniOf path (.ok (Utf8.encode content)) = .ok file := by
    rw [iniOf, fileLines_encode]
    dsimp only
    rw [hlines]
    dsimp only
    rw [hfinish]
    rfl
  have hfileRead : readIni path w = (.ok file, w) := by
    have houtcome : Run.outcome (Files.readOctets path) w = (.ok (.ok (Utf8.encode content)), w) := by
      rw [Run.outcome_apply, Files.readOctets_ok hnull hfile hread]
    rw [readIni_eq, Run.bind_ok (Files.isPresentOrRefused_ok hnull hfile), if_neg (by decide),
      Run.bind_ok houtcome, hini]
    rfl
  rw [load, Run.bind_ok hpath, Run.bind_ok hfileRead, values, hfound]
  dsimp only [Option.getD]
  rw [ofValues_options hsound]
  rfl

/-- A number of not too many digits is a sound entry in decimal. -/
theorem Entry.isSound_integer (key : NumberKey) {n : Int} (h : Integer.tooLong n = false) :
    (Entry.number key (some n) (integer n)).IsSound where
  strip := (Integer.isTrim_integer n).strip_eq
  single := isSingle_of_visible (Integer.integer_visible n)
  means := by
    refine .number key _ _ (Integer.read_toOption.mp ?_)
    rw [Integer.read_integer h]
    rfl

/-- Two texts, a word for no number, a number and a flag. -/
def fewEntries : List Entry :=
  [.useGanesha (some false) "oFF", .text .exportDirectory "a=[%;", .number .port none "x",
    .number .clusterTimeout (some (-5)) "-5", .text .logLevel ""]

def fewLines : List Text :=
  ["", "use_ganesha = oFF", "export_dir = a=[%%;", "\t# api_port = 1", "api_port = x",
    "kube_timeout = -5", "log_level = "]

def fewContent : Text :=
  "[provisioner]\r\n\nuse_ganesha = oFF\nexport_dir = a=[%%;\n\t# api_port = 1\r\n" ++
    "api_port = x\nkube_timeout = -5\nlog_level = "

theorem load_written_few :
    (load (World.ofFiles ⟨[([['s']], .file 0o644 (Utf8.encode fewContent))]⟩)).1 =
      .ok { standard with
        useGanesha := false
        exportDirectory := "a=[%;"
        clusterTimeout := -5
        logLevel := "" } := by
  have hsound : ∀ e ∈ fewEntries, e.IsSound := by
    refine List.forall_mem_cons.mpr ⟨⟨by decide, ⟨by decide, by decide⟩, .useGanesha _ _
      (.no (by decide))⟩, ?_⟩
    refine List.forall_mem_cons.mpr ⟨⟨by decide, ⟨by decide, by decide⟩, .text _ _ nofun⟩, ?_⟩
    refine List.forall_mem_cons.mpr ⟨⟨by decide, ⟨by decide, by decide⟩, .number _ _ _
      (Integer.read_toOption.mp rfl)⟩, ?_⟩
    refine List.forall_mem_cons.mpr ⟨Entry.isSound_integer _ (Integer.tooLong_of_lt (by decide)), ?_⟩
    exact List.forall_mem_singleton.mpr ⟨by decide, ⟨by decide, by decide⟩, .text _ _ fun _ => rfl⟩
  have hbody : Ini.Body (fewEntries.map Entry.option) fewLines :=
    .filler _ _ _ (.blank _ (by simp)) ⟨by decide, by decide⟩ (.option _ _ _ _ (.option _ _ _ _
      (.filler _ _ _ (.comment "\t" '#' " api_port = 1" (.inl rfl)
        (List.forall_mem_singleton.mpr rfl))
        ⟨by decide, by decide⟩ (.option _ _ _ _ (.option _ _ _ _ (.option _ _ _ _ .nil))))))
  have hcontent : Lined (Ini.headerLine sectionName :: fewLines) fewContent :=
    .line _ _ _ _ .returnFeed (.line _ _ _ _ .feed (.line _ _ _ _ .feed (.line _ _ _ _ .feed
      (.line _ _ _ _ .returnFeed (.line _ _ _ _ .feed (.line _ _ _ _ .feed
        (.last _ (by decide))))))))
  rw [load_written hsound (by decide) hbody hcontent rfl (by decide) rfl rfl]
  rfl

end NfsVolume.Settings
