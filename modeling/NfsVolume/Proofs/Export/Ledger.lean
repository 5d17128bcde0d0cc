import NfsVolume.Export.Ledger
import NfsVolume.Proofs.Export.Entry
import NfsVolume.Proofs.World.Events
import NfsVolume.Proofs.World.Raises

/-! The ledger of exports: which number the next id follows, and what appending an entry and
removing it again leave in the file. -/
namespace NfsVolume.Ledger

open Run Files

variable {α : Type} {path content text : Text} {w v : World} {place : Place} {mode : Nat}

theorem guarded_within {parts : List Part} {x : Run α} (hx : Within parts x) (path : Text) :
    Within parts (guarded path x) :=
  hx.onOsError fun _ => throw_within _

theorem guarded_ok {x : Run α} {a : α} (h : x w = (.ok a, v)) (path : Text) :
    guarded path x w = (.ok a, v) := onOsError_ok h

theorem guarded_os {x : Run α} {e : OsError} (h : x w = (.error (.os e), v)) (path : Text) :
    guarded path x w = (.error (.provisioning (.exportFile path e)), v) := onOsError_os h

/-- A guarded computation ends as it does by itself, but that errors of the system are reported for
the file. -/
theorem of_guarded {x : Run α} {r : Except Failure α} (h : guarded path x w = (r, v)) :
    ∃ result, x w = (result, v) ∧ (r = result ∨
      ∃ e, result = .error (.os e) ∧ r = .error (.provisioning (.exportFile path e))) := by
  rcases of_onOsError h with ⟨hx, -⟩ | ⟨e, u, hx, hr⟩
  · exact ⟨r, hx, .inl rfl⟩
  · cases hr
    exact ⟨_, hx, .inr ⟨e, rfl, rfl⟩⟩

theorem of_guarded_ok {x : Run α} {a : α} (h : guarded path x w = (.ok a, v)) :
    x w = (.ok a, v) := by
  obtain ⟨result, hx, rfl | ⟨e, -, hr⟩⟩ := of_guarded h
  · exact hx
  · cases hr

theorem guarded_reads {x : Run α} (hx : x.Reads) (path : Text) : (guarded path x).Reads := by
  intro w
  rcases hguarded : guarded path x w with ⟨r, v⟩
  obtain ⟨result, hrun, -⟩ := of_guarded hguarded
  exact hx.eq_of_run hrun

/-- The number that the next id follows: the count, or the last id in the file while the count is
zero. -/
def Follows (path : Text) (w : World) (last : Nat) : Prop :=
  (w.lastExportId ≠ 0 ∧ last = w.lastExportId) ∨
    (w.lastExportId = 0 ∧ ∃ place mode text,
      w.files.resolve path = .ok (place, .file mode (Text.Utf8.encode text)) ∧
        Export.lastId text.unifyNewlines = .ok last)

theorem recover_within {parts : List Part} (hc : Part.count ∈ parts) (path : Text) :
    Within parts (recover path) := by
  apply (guarded_within (readText_reads path).within path).bind
  intro current
  cases Export.lastId current with
  | error e => exact throw_within _
  | ok last =>
    exact Within.bind (fun w => withCount_frame hc w last) fun _ => log_within _ _ _

/-- The count is taken up from a text file that may be read, or nothing is different. -/
theorem of_recover {r : Except Failure Unit} (h : recover path w = (r, v)) :
    (v = w ∧ ∃ e, r = .error e) ∨
      (r = .ok () ∧ ∃ place mode text,
        w.files.resolve path = .ok (place, .file mode (Text.Utf8.encode text)) ∧
          (Node.directory mode).mayRead = true ∧
          Export.lastId text.unifyNewlines = .ok v.lastExportId) := by
  unfold recover at h
  have hreads := guarded_reads (readText_reads path) path
  rcases of_bind h with ⟨current, u, hread, hrest⟩ | ⟨e, hread, rfl⟩
  · obtain rfl := hreads.eq_of_run hread
    obtain ⟨text, u', hexact, hunify⟩ := of_bind_ok (of_guarded_ok hread)
    cases hunify
    obtain ⟨-, place, mode, hl, hmay⟩ := of_readExact hexact
    cases hlast : Export.lastId text.unifyNewlines with
    | error e =>
      rw [hlast] at hrest
      cases hrest
      exact .inl ⟨rfl, _, rfl⟩
    | ok last =>
      rw [hlast] at hrest
      cases hrest
      exact .inr ⟨rfl, place, mode, text, hl, hmay, hlast⟩
  · exact .inl ⟨hreads.eq_of_run hread, e, rfl⟩

/-- The count can be taken up from a text whose last id is found. -/
theorem recover_ok {last : Nat} (hp : '\x00' ∉ path)
    (hfile : w.files.resolve path = .ok (place, .file mode (Text.Utf8.encode text)))
    (hread : (Node.directory mode).mayRead = true)
    (hlast : Export.lastId text.unifyNewlines = .ok last) :
    ∃ log, recover path w = (.ok (), { w with lastExportId := last, log := log }) := by
  have hcurrent : guarded path (readText path) w = (.ok text.unifyNewlines, w) :=
    guarded_ok (readText_ok hp hfile hread) path
  rw [recover, bind_ok hcurrent, hlast]
  exact ⟨_, rfl⟩

theorem allocateId_within {parts : List Part} (hc : Part.count ∈ parts) (path : Text) :
    Within parts (allocateId path) := by
  have hset (id : Nat) : Within parts (setLast id) := fun w => withCount_frame hc w id
  apply get_within.bind
  intro u
  dsimp only
  refine Within.ite ((recover_within hc path).bind fun _ => ?_) ?_
  · exact get_within.bind fun _ => (hset _).bind fun _ => pure_within _
  · exact get_within.bind fun _ => (hset _).bind fun _ => pure_within _

theorem allocateId_silent (path : Text) : Silent (allocateId path) := by
  have hset (id : Nat) : Silent (setLast id) := silent_of_events fun _ => rfl
  have hrecover : Silent (recover path) := by
    have hread : Silent (guarded path (readText path)) :=
      (readText_reads path).silent.onOsError fun _ => throw_silent _
    apply hread.bind
    intro current
    cases Export.lastId current with
    | error e => exact throw_silent _
    | ok last => exact (hset last).bind fun _ => log_silent _ _ _
  apply get_silent.bind
  intro u
  dsimp only
  have hnext : Silent (do
      let id := (← get).lastExportId + 1
      setLast id
      return id) := get_silent.bind fun _ => (hset _).bind fun _ => pure_silent _
  exact Emits.ite (hrecover.bind fun _ => hnext) hnext

/-- An id is one more than the number it follows, and is the count from then on; or there is none, and
nothing is different. -/
theorem of_allocateId {r : Except Failure Nat} (h : allocateId path w = (r, v)) :
    (v = w ∧ ∃ e, r = .error e) ∨
      ∃ last, Follows path w last ∧ r = .ok (last + 1) ∧ v.lastExportId = last + 1 := by
  unfold allocateId at h
  rw [bind_ok (get_apply w)] at h
  dsimp only at h
  by_cases hz : w.lastExportId = 0
  · rw [if_pos hz] at h
    rcases of_bind h with ⟨_, u, hrec, hrest⟩ | ⟨e, hrec, rfl⟩
    · rcases of_recover hrec with ⟨-, e, hr⟩ | ⟨-, place, mode, text, hl, -, hlast⟩
      · cases hr
      · cases hrest
        exact .inr ⟨u.lastExportId, .inr ⟨hz, place, mode, text, hl, hlast⟩, rfl, rfl⟩
    · rcases of_recover hrec with ⟨hv, -⟩ | ⟨hr, -⟩
      · exact .inl ⟨hv, e, rfl⟩
      · cases hr
  · rw [if_neg hz] at h
    cases h
    exact .inr ⟨w.lastExportId, .inl ⟨hz, rfl⟩, rfl, rfl⟩

/-- An id is allocated wherever there is a number that it follows. -/
theorem allocateId_ok {last : Nat} (hp : '\x00' ∉ path)
    (hfile : w.files.resolve path = .ok (place, .file mode (Text.Utf8.encode text)))
    (hread : (Node.directory mode).mayRead = true) (h : Follows path w last) :
    ∃ log, allocateId path w = (.ok (last + 1), { w with lastExportId := last + 1, log := log }) := by
  unfold allocateId
  rw [bind_ok (get_apply w)]
  dsimp only
  rcases h with ⟨hne, rfl⟩ | ⟨hz, place', mode', text', hl, hlast⟩
  · rw [if_neg hne]
    exact ⟨_, rfl⟩
  · obtain rfl := text_unique hfile hl
    obtain ⟨log, hrecover⟩ := recover_ok hp hfile hread hlast
    rw [if_pos hz, bind_ok hrecover]
    exact ⟨_, rfl⟩

theorem allocateId_pos {id : Nat} (h : (allocateId path w).1 = .ok id) : 0 < id := by
  rcases hallocate : allocateId path w with ⟨r, u⟩
  rw [hallocate] at h
  subst h
  rcases of_allocateId hallocate with ⟨-, e, hr⟩ | ⟨last, -, hr, -⟩
  · cases hr
  · cases hr
    exact Nat.succ_pos last

/-- The count is not yet taken up, or no block of a text has an id above it. -/
def Ahead (count : Nat) (text : Text) : Prop :=
  count = 0 ∨ ∀ id, count < id → ¬ Export.idMark id <:+: text

theorem ahead_of_ids {count : Nat} (h : count = 0 ∨ ∀ id ∈ Export.ids text, id ≤ count) :
    Ahead count text := by
  refine h.imp_right fun hle id hid hmark => ?_
  have := hle id (Export.mem_ids_of_idMark hmark)
  omega

theorem Follows.ids_le {last : Nat} (h : Follows path w last)
    (hfile : w.files.resolve path = .ok (place, .file mode (Text.Utf8.encode text)))
    (hcount : w.lastExportId = 0 ∨ ∀ id ∈ Export.ids text, id ≤ w.lastExportId) :
    ∀ id ∈ Export.ids text, id ≤ last := by
  rcases h with ⟨hne, rfl⟩ | ⟨-, place', mode', text', hl, hlast⟩
  · exact hcount.resolve_left hne
  · obtain rfl := text_unique hfile hl
    rw [← Export.ids_unifyNewlines]
    exact (Export.lastId_ok hlast).1

/-- What the next id follows depends on the count and on the text of the file. -/
theorem Follows.congr {last : Nat} {other : Nat} {elsewhere : Place} (h : Follows path v last)
    (hcount : v.lastExportId = w.lastExportId)
    (hv : v.files.resolve path = .ok (elsewhere, .file other (Text.Utf8.encode text)))
    (hw : w.files.resolve path = .ok (place, .file mode (Text.Utf8.encode text))) :
    Follows path w last := by
  rcases h with ⟨hne, rfl⟩ | ⟨hz, place', mode', text', hl, hlast⟩
  · exact .inl ⟨hcount ▸ hne, hcount⟩
  · obtain rfl := text_unique hv hl
    exact .inr ⟨hcount ▸ hz, place, mode, text, hw, hlast⟩

/-- A new id has no block in the file. -/
theorem Follows.not_idMark {last : Nat} (h : Follows path w last)
    (hfile : w.files.resolve path = .ok (place, .file mode (Text.Utf8.encode text)))
    (hahead : Ahead w.lastExportId text) {id : Nat} (hid : last < id) :
    ¬ Export.idMark id <:+: text := by
  by_cases hz : w.lastExportId = 0
  · intro hmark
    have := h.ids_le hfile (.inl hz) id (Export.mem_ids_of_idMark hmark)
    omega
  · rcases h with ⟨-, rfl⟩ | ⟨hzero, -⟩
    · exact hahead.resolve_left hz id hid
    · exact absurd hzero hz

theorem append_within {parts : List Part} (hf : Part.files ∈ parts)
    (hc : Part.call .fsync ∈ parts) (path content : Text) : Within parts (append path content) :=
  guarded_within (Files.append_within hf hc path content) path

/-- Either nothing is written or the whole entry is, and then only syncing it can fail. -/
theorem of_append {r : Except Failure Unit} (hc : content ≠ [])
    (h : append path content w = (r, v)) :
    (v = w ∧ ∃ e, r = .error e) ∨
      ∃ place mode old, '\x00' ∉ path ∧ w.files.resolve path = .ok (place, .file mode old) ∧
        v = struck .fsync (written path content place mode old w) ∧
        ((Fault.due? .fsync w.faults = none ∧ r = .ok ()) ∨
          (Fault.due? .fsync w.faults ≠ none ∧ ∃ e, r = .error e)) := by
  rcases of_onOsError h with ⟨hx, hnot⟩ | ⟨e, u, hx, hr⟩
  · rcases Files.of_append hc hx with hw | ⟨place, mode, old, hp, hl, -, hm⟩
    · exact .inl hw
    · obtain ⟨rfl, ⟨hdue, hr⟩ | ⟨errno, -, hr⟩⟩ := of_meet hm
      · exact .inr ⟨place, mode, old, hp, hl, rfl, .inl ⟨hdue, hr⟩⟩
      · exact absurd hr (hnot _)
  · cases hr
    rcases Files.of_append hc hx with ⟨hw, -⟩ | ⟨place, mode, old, hp, hl, -, hm⟩
    · exact .inl ⟨hw, _, rfl⟩
    · obtain ⟨rfl, ⟨-, hr⟩ | ⟨errno, hdue, -⟩⟩ := of_meet hm
      · cases hr
      · refine .inr ⟨place, mode, old, hp, hl, rfl, .inr ⟨?_, _, rfl⟩⟩
        rw [show Fault.due? .fsync w.faults = some errno from hdue]
        exact Option.some_ne_none errno

/-- A whole entry is written to a file that may be written. -/
theorem append_ok {old : List UInt8} (hp : '\x00' ∉ path) (hc : content ≠ [])
    (hfile : w.files.resolve path = .ok (place, .file mode old))
    (hw : (Node.file mode old).mayWrite = true) (hfsync : Fault.due? .fsync w.faults = none) :
    append path content w = (.ok (), struck .fsync (written path content place mode old w)) := by
  have hdue : Fault.due? .fsync (written path content place mode old w).faults = none := hfsync
  have hwrite : Files.append path content w =
      (.ok (), struck .fsync (written path content place mode old w)) := by
    rw [append_apply hp hc hfile hw, meet_ok hdue]
  exact guarded_ok hwrite path

/-- Nothing is written to a file that may not be written. -/
theorem append_unwritable {old : List UInt8} (hp : '\x00' ∉ path)
    (hfile : w.files.resolve path = .ok (place, .file mode old))
    (hw : (Node.file mode old).mayWrite = false) :
    append path content w =
      (.error (.provisioning (.exportFile path ⟨Errno.accessDenied, some path⟩)), w) := by
  have hrefused : Files.append path content w =
      (.error (.os ⟨Errno.accessDenied, some path⟩), w) := by
    rw [Files.append, bind_ok (resolve_ok hp hfile)]
    simp [hw]
  exact guarded_os hrefused path

theorem remove_within {parts : List Part} (hf : Part.files ∈ parts)
    (hmkstemp : Part.call .mkstemp ∈ parts) (hfsync : Part.call .fsync ∈ parts)
    (hchmod : Part.call .chmod ∈ parts) (hreplace : Part.call .replace ∈ parts)
    (path content : Text) : Within parts (remove path content) :=
  guarded_within ((readExact_reads path).within.bind fun _ =>
    rewrite_within hf hmkstemp hfsync hchmod hreplace path _) path

/-- A file can be rewritten now: it may be read, there is room beside it, and no fault is due. -/
structure Rewritable (w : World) (place : Place) (mode : Nat) : Prop where
  readable : (Node.directory mode).mayRead = true
  room : roomBeside w.files place = true
  mkstemp : Fault.due? .mkstemp w.faults = none
  fsync : Fault.due? .fsync w.faults = none
  chmod : Fault.due? .chmod w.faults = none
  replace : Fault.due? .replace w.faults = none

/-- From a file that may not be read nothing is removed. -/
theorem remove_unreadable {octets : List UInt8} (hp : '\x00' ∉ path)
    (hfile : w.files.resolve path = .ok (place, .file mode octets))
    (hread : (Node.file mode octets).mayRead = false) :
    remove path content w =
      (.error (.provisioning (.exportFile path ⟨Errno.accessDenied, some path⟩)), w) := by
  have hrefused : readOctets path w = (.error (.os ⟨Errno.accessDenied, some path⟩), w) := by
    rw [readOctets, bind_ok (resolve_ok hp hfile)]
    simp [hread]
  exact guarded_os (bind_error (bind_error hrefused)) path

/-- From a file that is no text nothing is removed, and that is not reported for the file. -/
theorem remove_undecodable {octets : List UInt8} {e : Text.Utf8.ReadError} (hp : '\x00' ∉ path)
    (hfile : w.files.resolve path = .ok (place, .file mode octets))
    (hread : (Node.file mode octets).mayRead = true) (he : Text.Utf8.decode octets = .error e) :
    remove path content w = (.error (.undecodable e), w) := by
  have hdecode : readExact path w = (.error (.undecodable e), w) := by
    rw [readExact, bind_ok (readOctets_ok hp hfile hread), decode, he]
    rfl
  rw [remove, guarded, onOsError, tryCatch_error (bind_error hdecode)]
  rfl

/-- Removing an entry rewrites the file, which may then be read and has room beside it; or nothing
changes and that is reported for the file. -/
theorem of_remove {r : Except Failure Unit} (hp : '\x00' ∉ path)
    (hfile : w.files.resolve path = .ok (place, .file mode (Text.Utf8.encode text)))
    (h : remove path content w = (r, v)) :
    (r = .ok () ∧ ((Node.directory mode).mayRead = true ∧ roomBeside w.files place = true) ∧
        v.files = w.files.put place (.file mode (Text.Utf8.encode (Text.erase content text)))) ∨
      ((∃ e, r = .error (.provisioning (.exportFile path e))) ∧ v.files = w.files ∧
        ¬ Rewritable w place mode) := by
  have hmode : (Node.file mode (Text.Utf8.encode text)).mayRead = (Node.directory mode).mayRead :=
    rfl
  cases hread : (Node.directory mode).mayRead with
  | false =>
    rw [remove_unreadable hp hfile (hmode.trans hread)] at h
    cases h
    refine .inr ⟨⟨_, rfl⟩, rfl, fun hrw => ?_⟩
    rw [hrw.readable] at hread
    cases hread
  | true =>
    have hbody : (readExact path >>= fun current => rewrite path (Text.erase content current)) w =
        rewrite path (Text.erase content text) w :=
      bind_ok (readExact_ok hp hfile (hmode.trans hread))
    rcases hrw : rewrite path (Text.erase content text) w with ⟨r', v'⟩
    rw [hrw] at hbody
    rcases of_rewrite hp hfile hrw with ⟨⟨e, rfl⟩, hv⟩ | ⟨rfl, hv⟩
    · rw [remove, guarded_os hbody] at h
      cases h
      refine .inr ⟨⟨e, rfl⟩, hv, fun hok => ?_⟩
      have hwritten : (rewrite path (Text.erase content text) w).1 = .ok () :=
        rewrite_ok hp hfile hok.room hok.mkstemp hok.fsync hok.chmod hok.replace
      rw [hrw] at hwritten
      cases hwritten
    · rw [remove, guarded_ok hbody] at h
      cases h
      refine .inl ⟨rfl, ⟨rfl, ?_⟩, hv⟩
      cases hroom : roomBeside w.files place with
      | true => rfl
      | false =>
        have hrefused : ∃ e, (rewrite path (Text.erase content text) w).1 = .error e :=
          rewrite_refused hp hfile hroom
        rw [hrw] at hrefused
        obtain ⟨e, he⟩ := hrefused
        cases he

end NfsVolume.Ledger
