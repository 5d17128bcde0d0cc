import NfsVolume.Cluster
import NfsVolume.Proofs.World.Outside

/-! What the cluster replies at a path, and what an object shows that is looked up there. -/
namespace NfsVolume

namespace Group

/-- A reply that holds no object. -/
inductive NoAnswer : Reply → Prop
  | timedOut : NoAnswer .timedOut
  | failed (reason : Text) : NoAnswer (.failed reason)
  | refused (status : Int) (body : Text) (h : 400 ≤ status) : NoAnswer (.response status body)

theorem NoAnswer.ofReply {reply : Reply} (h : NoAnswer reply) (timeout : Int) (path : Text) :
    ∃ problem, Cluster.ofReply timeout path reply = .ok (.error problem) := by
  cases h with
  | timedOut => exact ⟨_, rfl⟩
  | failed reason => exact ⟨_, rfl⟩
  | refused status body h =>
    rw [Cluster.ofReply, if_pos h]
    exact ⟨_, rfl⟩

/-- A reply holds no object, or one in a body that is to be read. -/
theorem noAnswer_or_response (reply : Reply) :
    NoAnswer reply ∨ ∃ status body, status < 400 ∧ reply = .response status body := by
  cases reply with
  | timedOut => exact .inl .timedOut
  | failed reason => exact .inl (.failed reason)
  | response status body =>
    by_cases hstatus : 400 ≤ status
    · exact .inl (.refused status body hstatus)
    · exact .inr ⟨status, body, by omega, rfl⟩

end Group

namespace Cluster

open Run

/-- The world in which an object has been asked for, and the reply is used up. -/
def asked (c : Cluster) (path : Text) (w : World) : World :=
  { w with
    replies := (Outside.take? (Outside.pathOfUrl (c.baseUrl ++ path)) w.replies).2
    events := w.events ++ [.fetch (c.baseUrl ++ path) c.authorization c.timeout c.verify] }

theorem lookup_apply (c : Cluster) (path : Text) (w : World) :
    ∃ log, c.lookup path w =
      (ofReply c.timeout path (w.replyTo (c.baseUrl ++ path)),
        { c.asked path w with log := log }) := by
  unfold lookup
  rw [bind_ok (show Run.log .debug .cluster ("GET " ++ path) w = (.ok (), _) from rfl)]
  rw [bind_ok (show Outside.fetch _ _ _ _ _ = (.ok _, _) from rfl), ofExcept_apply]
  exact ⟨_, rfl⟩

theorem ofReply_response {status : Int} (hstatus : status < 400) (timeout : Int)
    (path body : Text) :
    ofReply timeout path (.response status body) = match Json.read body with
      | .ok v => .ok (.ok v)
      | .error (.tooDeep kind) => .error (.json (.tooDeep kind))
      | .error e => .ok (.error (.unreadable path e)) := by
  have hanswered : ¬ 400 ≤ status := by omega
  refine (if_neg hanswered).trans ?_
  cases Json.read body with
  | ok object => rfl
  | error e => cases e <;> rfl

/-- A reply is a response with a body, and what comes of reading the body. -/
def Delivers (reply : Reply) (r : Except Json.ReadError Json) : Prop :=
  ∃ status body, status < 400 ∧ reply = .response status body ∧ Json.read body = r

variable {reply : Reply}

theorem Delivers.ofReply_ok {v : Json} (h : Delivers reply (.ok v)) (timeout : Int) (path : Text) :
    ofReply timeout path reply = .ok (.ok v) := by
  obtain ⟨status, body, hstatus, rfl, hread⟩ := h
  rw [ofReply_response hstatus, hread]

theorem Delivers.ofReply_deep {kind : Json.Kind} (h : Delivers reply (.error (.tooDeep kind)))
    (timeout : Int) (path : Text) :
    ofReply timeout path reply = .error (.json (.tooDeep kind)) := by
  obtain ⟨status, body, hstatus, rfl, hread⟩ := h
  rw [ofReply_response hstatus, hread]

theorem Delivers.ofReply_error {e : Json.ReadError} (h : Delivers reply (.error e))
    (he : ∀ kind, e ≠ .tooDeep kind) (timeout : Int) (path : Text) :
    ofReply timeout path reply = .ok (.error (.unreadable path e)) := by
  obtain ⟨status, body, hstatus, rfl, hread⟩ := h
  rw [ofReply_response hstatus, hread]
  cases e with
  | tooDeep kind => exact absurd rfl (he kind)
  | _ => rfl

/-- A lookup meets a problem, or an object that is too deep, or it has its object. -/
theorem ofReply_cases (timeout : Int) (path : Text) (reply : Reply) :
    (∃ problem, ofReply timeout path reply = .ok (.error problem)) ∨
      (∃ kind, Delivers reply (.error (.tooDeep kind))) ∨ ∃ v, Delivers reply (.ok v) := by
  rcases Group.noAnswer_or_response reply with hno | ⟨status, body, hstatus, rfl⟩
  · exact .inl (hno.ofReply timeout path)
  · cases hread : Json.read body with
    | ok v => exact .inr (.inr ⟨v, status, body, hstatus, rfl, hread⟩)
    | error e =>
      cases e with
      | tooDeep kind => exact .inr (.inl ⟨kind, status, body, hstatus, rfl, hread⟩)
      | _ => exact .inl ⟨_, Delivers.ofReply_error ⟨status, body, hstatus, rfl, hread⟩ nofun _ _⟩

/-- What a reply shows to a reader of objects: nothing if there is no object, or what is read from
the object. -/
inductive Shows {α : Type} (read : Json → Option α) (reply : Reply) : Option α → Prop
  | unanswered (h : Group.NoAnswer reply) : Shows read reply none
  | unreadable (e : Json.ReadError) (h : Delivers reply (.error e))
      (he : ∀ kind, e ≠ .tooDeep kind) : Shows read reply none
  | object (v : Json) (h : Delivers reply (.ok v)) (a : α) (ha : read v = some a) :
      Shows read reply (some a)

variable {α : Type} {read : Json → Option α}

theorem Shows.ofReply_none (h : Shows read reply none) (timeout : Int) (path : Text) :
    ∃ problem, ofReply timeout path reply = .ok (.error problem) := by
  cases h with
  | unanswered h => exact h.ofReply timeout path
  | unreadable e h he => exact ⟨_, h.ofReply_error he timeout path⟩

theorem Shows.ofReply_some {a : α} (h : Shows read reply (some a)) (timeout : Int) (path : Text) :
    ∃ v, read v = some a ∧ ofReply timeout path reply = .ok (.ok v) := by
  cases h with
  | object v h _ ha => exact ⟨v, ha, h.ofReply_ok timeout path⟩

/-- What a body shows is known by reading it. -/
theorem Shows.of_eval {status : Int} {body : Text} {a : α} (hreply : reply = .response status body)
    (hstatus : status < 400) (h : (Json.read body).toOption.bind read = some a) :
    Shows read reply (some a) := by
  cases hread : Json.read body with
  | error e =>
    rw [hread] at h
    cases h
  | ok v =>
    rw [hread] at h
    exact .object v ⟨status, body, hstatus, hreply, hread⟩ a h

end Cluster
end NfsVolume
