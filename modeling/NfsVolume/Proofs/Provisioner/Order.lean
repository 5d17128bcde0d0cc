import NfsVolume.Proofs.Export.Rollback
import NfsVolume.Proofs.Group
import NfsVolume.Proofs.Provisioner.Ids

/-! What a successful call does outside, and in which order: the address is asked for, the directory
is made, it gets its group, it is entered in the export file, and the server is told. -/
namespace NfsVolume

open Run Files

/-- Asking for the address of the server. -/
def Event.IsInquiry : Event → Prop
  | .command arguments => arguments = ["hostname", "-i"]
  | .fetch .. => True
  | _ => False

/-- Asking the cluster for an object. -/
def Event.IsFetch : Event → Prop
  | .fetch .. => True
  | _ => False

theorem Event.IsFetch.isInquiry {e : Event} (h : e.IsFetch) : e.IsInquiry := by
  cases e with
  | fetch => trivial
  | _ => cases h

theorem Cluster.lookup_fetches (c : Cluster) (path : Text) : Emits Event.IsFetch (c.lookup path) := by
  apply (log_silent _ _ _).emits.bind
  intro _
  apply Emits.bind
  · intro w
    exact ⟨_, Outside.fetch_events _ _ _ _ w, by simp [Event.IsFetch]⟩
  · intro _
    exact (ofExcept_silent _).emits

theorem Cluster.lookup_asks (c : Cluster) (path : Text) : Emits Event.IsInquiry (c.lookup path) :=
  (c.lookup_fetches path).mono fun _ h => h.isInquiry

theorem Server.hostAddress_asks : Emits Event.IsInquiry Server.hostAddress := by
  apply Emits.bind
  · exact Outside.runCommand_emits (by simp [Event.IsInquiry])
  · intro answer
    cases answer with
    | error e => exact (throw_silent _).emits
    | ok found => exact Emits.ite (throw_silent _).emits (pure_silent _).emits

namespace ServerLocator

variable (l : ServerLocator)

theorem ownAddress_asks : Emits Event.IsInquiry l.ownAddress := by
  apply (environment_silent _).emits.bind
  intro address
  apply Emits.ite (pure_silent _).emits
  exact (log_silent _ _ _).emits.bind fun _ => Server.hostAddress_asks

theorem serviceAddress_asks (space service address : Text) :
    Emits Event.IsInquiry (l.serviceAddress space service address) := by
  apply (l.cluster.lookup_asks _).bind
  intro found
  cases found with
  | error problem => exact (throw_silent _).emits
  | ok object =>
    apply (l.cluster.lookup_asks _).bind
    intro found
    cases found with
    | error problem => exact (throw_silent _).emits
    | ok endpoints =>
      apply (ofExcept_silent _).emits.bind
      intro same
      dsimp only
      refine Emits.ite ((throw_silent _).emits.bind fun _ => ?_) ?_
      all_goals
        apply (ofExcept_silent _).emits.bind
        intro ip
        cases ip with
        | none => exact (throw_silent _).emits
        | some ip => exact (pure_silent _).emits

theorem resolve_asks : Emits Event.IsInquiry l.resolve := by
  apply l.ownAddress_asks.bind
  intro own
  apply (environment_silent _).emits.bind
  intro service
  have hservice : Emits Event.IsInquiry (do
      let space ← Run.environment l.namespaceVariable
      if space.isEmpty then Server.refuse (.noNamespace l.serviceVariable l.namespaceVariable)
      l.serviceAddress space service own) := by
    apply (environment_silent _).emits.bind
    intro space
    dsimp only
    exact Emits.ite ((throw_silent _).emits.bind fun _ => l.serviceAddress_asks _ _ _)
      (l.serviceAddress_asks _ _ _)
  dsimp only
  exact Emits.ite ((log_silent _ _ _).emits.bind fun _ => (pure_silent _).emits) hservice

end ServerLocator

namespace Volume

variable {directory name path : Text} {capacity gid : Int} {w v : World}

theorem create_events {made : Text} (h : create path w = (.ok made, v)) :
    v.events = w.events ++ [.directoryMade path] := by
  obtain ⟨_, u, hmake, h⟩ := of_bind_ok h
  obtain ⟨_, u', hmode, hreturn⟩ := of_bind_ok h
  obtain ⟨-, rfl⟩ := Prod.mk.inj hreturn
  have hu : u.events = w.events ++ [.directoryMade path] := by
    rcases of_onOsError hmake with ⟨hmake, -⟩ | ⟨e, u', -, hr⟩
    · exact makeDirectories_events hmake
    · cases hr
  rcases of_onOsError hmode with ⟨hmode, -⟩ | ⟨e, u', -, hback⟩
  · rw [(changeMode_silent _ _).events hmode, hu]
  · obtain ⟨_, u', -, hthrow⟩ := of_bind_ok hback
    cases hthrow

/-- An allocation makes its directory in one that is there, and does nothing else outside. -/
theorem of_allocate_ok (h : allocate directory name capacity w = (.ok path, v)) :
    (∃ found, w.files.resolve directory = .ok found) ∧
      v.events = w.events ++ [.directoryMade (Path.join directory name)] := by
  have hsilent : Silent (availableOctets directory) :=
    (freeOctets_silent directory).onOsError fun _ => throw_silent _
  obtain ⟨available, u, hspace, hcreate⟩ := create_of_allocate_ok h
  exact ⟨(of_availableOctets hspace).2, by rw [create_events hcreate, hsilent.events hspace]⟩

theorem of_setGroup (h : setGroup path gid w = (.ok (), v)) :
    v.events = w.events ++ [.chown path gid] ∧ -1 ≤ gid ∧ gid ≤ maxGroup := by
  rcases of_onOsError h with ⟨hchange, -⟩ | ⟨e, u, -, hr⟩
  · exact of_changeGroup hchange
  · cases hr

end Volume

namespace ExportBackend

open Ledger

variable {b : ExportBackend} {path entry : Text} {id : Nat} {w u v : World} {record : ExportRecord}

/-- The command that tells the server. -/
def command (b : ExportBackend) (path : Text) : List Text :=
  match b.kind with
  | .kernel => ["exportfs", "-r"]
  | .ganesha => busProgram :: callArguments b.file path

theorem activate_events {answer : Except ActivationProblem Unit}
    (h : b.activate path w = (.ok answer, v)) :
    v.events = w.events ++ [.command (b.command path)] := by
  unfold activate at h
  unfold command
  cases hb : b.kind with
  | kernel =>
    rw [hb] at h
    obtain ⟨found, u, hrun, hreturn⟩ := of_bind_ok h
    cases hreturn
    exact Outside.runCommand_events hrun
  | ganesha =>
    rw [hb] at h
    obtain ⟨_, u', hlog, h⟩ := of_bind_ok h
    obtain ⟨found, u, hrun, hreturn⟩ := of_bind_ok h
    cases hreturn
    rw [← (log_silent _ _ _).events hlog]
    exact Outside.runCommand_events hrun

/-- A path that has been added: its entry is at the end of a file that was there, and then the
server has been told. -/
structure Added (b : ExportBackend) (path : Text) (w v : World) (record : ExportRecord)
    (place : Place) (mode : Nat) (old : List UInt8) : Prop where
  kind : record.kind = b.kind
  content : ∃ id : Nat, record.exportId = id ∧ record.content = entryOf b.kind path id
  short : Text.Integer.tooLong record.exportId = false
  kernel : b.kind = .kernel → record.exportId = 0
  resolve : w.files.resolve b.file = .ok (place, .file mode old)
  files : v.files =
    w.files.put place (.file (Node.writtenMode mode) (old ++ Text.Utf8.encode record.content))
  events : v.events = w.events ++ [.appended b.file record.content, .command (b.command path)]

theorem Added.of_add (h : b.add path w = (.ok record, v)) :
    ∃ place mode old, Added b path w v record place mode old := by
  rw [add_eq] at h
  obtain ⟨⟨id, entry⟩, u, henter, hfinish⟩ := of_bind_ok h
  obtain ⟨⟨hentry, hkernel, hshort⟩, w', hw', hevents, happend⟩ := of_enter henter
  have hfiles : w'.files = w.files := hw'.files (by simp)
  have hne : entry ≠ [] := hentry ▸ entryOf_ne_nil b.kind path id
  obtain ⟨rfl, u₂, hactivate, hv, hvevents⟩ := of_finish_ok hfinish
  have hu₂ : World.Frame [.results b.program] u u₂ :=
    (activate_within (by simp) path).frame hactivate
  rcases Ledger.of_append hne happend with ⟨-, e, hr⟩ | ⟨place, mode, old, -, hfile, hu, -⟩
  · cases hr
  · have hufiles : u.files = w.files.put place
        (.file (Node.writtenMode mode) (old ++ Text.Utf8.encode entry)) := by
      rw [hu, struck_files, ← hfiles]
      rfl
    have huevents : u.events = w.events ++ [.appended b.file entry] := by
      rw [hu, ← hevents]
      rfl
    refine ⟨place, mode, old, ⟨rfl, ⟨id, rfl, hentry⟩, hshort, ?_, hfiles ▸ hfile, ?_, ?_⟩⟩
    · intro hk
      simp [hkernel hk]
    · rw [hv, hu₂.files (by simp), hufiles]
    · rw [hvevents, activate_events hactivate, huevents, List.append_assoc]
      rfl

end ExportBackend
end NfsVolume
