import NfsVolume.Proofs.Server.Endpoints

/-! Which addresses can be used, and how the search for an address comes to something else than such
an address or a refusal. -/
namespace NfsVolume

/-- A text that is not empty and has no blanks in it. -/
def RawText.IsWord (s : RawText) : Prop := s ≠ [] ∧ ∀ p ∈ s, Text.isBlank p.shown = false

namespace ServerLocator

open Run Server RawText

/-- An address that is a word, or a refusal by the locator itself. -/
inductive Proper : Except Failure Json → Prop
  | address (s : RawText) (h : s.IsWord) : Proper (.ok (.text s))
  | refusal (problem : ServerProblem) : Proper (.error (.provisioning (.server problem)))

/-- What objects of a service and of its endpoints come to that the locator does not look through:
an object without the shape of its kind, or an address that is no word. -/
inductive Spoilt (own : Text) (object endpoints : Json) : Except Failure Json → Prop
  | endpoints (e : Failure) (h : endpointsMatch endpoints own = .error e) :
      Spoilt own object endpoints (.error e)
  | service (hmatch : endpointsMatch endpoints own = .ok true) (e : Failure)
      (h : clusterIp object = .error e) : Spoilt own object endpoints (.error e)
  | address (hmatch : endpointsMatch endpoints own = .ok true) (ip : Json)
      (h : clusterIp object = .ok (some ip)) (hip : ∀ s, ip = .text s → ¬ s.IsWord) :
      Spoilt own object endpoints (.ok ip)

/-- What the search comes to without noticing: a host that tells its address in no word or in more
than one, or writes what is no text, and objects that are too deep, do not have their shape or hold
no proper address. -/
inductive Astray (l : ServerLocator) (w : World) : Except Failure Json → Prop
  | host (hown : w.valueOf l.podIpVariable = []) (hservice : w.valueOf l.serviceVariable = [])
      (output errors : Text) (hanswer : w.answerOf "hostname" = .ok (.ok (0, output, errors)))
      (h : ¬ (RawText.ofText output.strip).IsWord) : Astray l w (.ok (.text output.strip))
  | undecodable (hown : w.valueOf l.podIpVariable = []) (problem : Text.Utf8.ReadError)
      (h : w.answerOf "hostname" = .error (.undecodable problem)) :
      Astray l w (.error (.undecodable problem))
  | deepService (own space name : Text) (hbehind : l.Behind w own space name) (kind : Json.Kind)
      (h : Cluster.Delivers (l.serviceReply w space name) (.error (.tooDeep kind))) :
      Astray l w (.error (.json (.tooDeep kind)))
  | deepEndpoints (own space name : Text) (hbehind : l.Behind w own space name) (object : Json)
      (hobject : Cluster.Delivers (l.serviceReply w space name) (.ok object)) (kind : Json.Kind)
      (h : Cluster.Delivers (l.endpointsReply w space name) (.error (.tooDeep kind))) :
      Astray l w (.error (.json (.tooDeep kind)))
  | spoilt (own space name : Text) (hbehind : l.Behind w own space name) (object endpoints : Json)
      (hobject : Cluster.Delivers (l.serviceReply w space name) (.ok object))
      (hendpoints : Cluster.Delivers (l.endpointsReply w space name) (.ok endpoints))
      (r : Except Failure Json) (h : Spoilt own object endpoints r) : Astray l w r

variable {l : ServerLocator} {w : World} {own space name : Text} {object endpoints : Json}
  {r : Except Failure Json}

theorem proper_iff : Proper r ↔ (∃ s : RawText, s.IsWord ∧ r = .ok (.text s)) ∨
    ∃ problem, r = .error (.provisioning (.server problem)) := by
  constructor
  · intro h
    cases h with
    | address s hs => exact .inl ⟨s, hs, rfl⟩
    | refusal problem => exact .inr ⟨problem, rfl⟩
  · rintro (⟨s, hs, rfl⟩ | ⟨problem, rfl⟩)
    · exact .address s hs
    · exact .refusal problem

theorem not_proper_of_misshapen {e : Failure} (h : Group.Misshapen e) : ¬ Proper (.error e) := by
  intro hproper
  cases hproper with
  | refusal problem => cases h

theorem Spoilt.not_proper (h : Spoilt own object endpoints r) : ¬ Proper r := by
  cases h with
  | endpoints e h =>
    have hmeets := endpointsMatch_meets endpoints own
    rw [h] at hmeets
    exact not_proper_of_misshapen hmeets
  | service hmatch e h =>
    have hmeets := clusterIp_meets object
    rw [h] at hmeets
    exact not_proper_of_misshapen hmeets
  | address hmatch ip h hip =>
    intro hproper
    cases hproper with
    | address s hs => exact hip s rfl hs

theorem Astray.not_proper (h : l.Astray w r) : ¬ Proper r := by
  cases h with
  | host hown hservice output errors hanswer h =>
    intro hproper
    cases hproper with
    | address s hs => exact h hs
  | undecodable => nofun
  | deepService => nofun
  | deepEndpoints => nofun
  | spoilt own space name hbehind object endpoints hobject hendpoints r h => exact h.not_proper

theorem judged_of_spoilt (h : Spoilt own object endpoints r) (space name : Text) :
    judged space name own object endpoints = r := by
  unfold judged
  cases h with
  | endpoints e h =>
    rw [h]
    rfl
  | service hmatch e h =>
    rw [hmatch, h]
    rfl
  | address hmatch ip h hip =>
    rw [hmatch, h]
    rfl

/-- What comes astray is what the search comes to. -/
theorem Astray.found (h : l.Astray w r) : l.found w = r := by
  cases h with
  | host hown hservice output errors hanswer h =>
    unfold ServerLocator.found ServerLocator.own hostFound
    rw [if_pos hown, hanswer, hservice]
    rfl
  | undecodable hown problem h =>
    unfold ServerLocator.found ServerLocator.own hostFound
    rw [if_pos hown, h]
    rfl
  | deepService own space name hbehind kind h =>
    rw [hbehind.found, serviceFound]
    rw [h.ofReply_deep]
    rfl
  | deepEndpoints own space name hbehind object hobject kind h =>
    rw [hbehind.found, serviceFound]
    rw [hobject.ofReply_ok, h.ofReply_deep]
    rfl
  | spoilt own space name hbehind object endpoints hobject hendpoints r h =>
    rw [hbehind.found, serviceFound]
    rw [hobject.ofReply_ok, hendpoints.ofReply_ok]
    exact judged_of_spoilt h space name

theorem judged_proper_or_spoilt (space name own : Text) (object endpoints : Json) :
    Proper (judged space name own object endpoints) ∨
      Spoilt own object endpoints (judged space name own object endpoints) := by
  unfold judged
  cases hmatch : endpointsMatch endpoints own with
  | error e => exact .inr (.endpoints e hmatch)
  | ok same =>
    cases same with
    | false => exact .inl (.refusal _)
    | true =>
      cases hip : clusterIp object with
      | error e => exact .inr (.service hmatch e hip)
      | ok found =>
        cases found with
        | none => exact .inl (.refusal _)
        | some ip =>
          by_cases hword : ∃ s, ip = .text s ∧ s.IsWord
          · obtain ⟨s, rfl, hs⟩ := hword
            exact .inl (.address s hs)
          · exact .inr (.address hmatch ip hip fun s hs hs' => hword ⟨s, hs, hs'⟩)

theorem Behind.proper_or_astray (h : l.Behind w own space name) :
    Proper (l.found w) ∨ l.Astray w (l.found w) := by
  rw [h.found]
  unfold serviceFound
  rcases Cluster.ofReply_cases l.cluster.timeout (Cluster.servicePath space name)
    (l.serviceReply w space name) with ⟨problem, hproblem⟩ | ⟨kind, hdeep⟩ | ⟨object, hobject⟩
  · rw [hproblem]
    exact .inl (.refusal _)
  · rw [hdeep.ofReply_deep]
    exact .inr (.deepService own space name h kind hdeep)
  rw [hobject.ofReply_ok]
  dsimp only [bind, Except.bind]
  rcases Cluster.ofReply_cases l.cluster.timeout (Cluster.endpointsPath space name)
    (l.endpointsReply w space name) with
    ⟨problem, hproblem⟩ | ⟨kind, hdeep⟩ | ⟨endpoints, hendpoints⟩
  · rw [hproblem]
    exact .inl (.refusal _)
  · rw [hdeep.ofReply_deep]
    exact .inr (.deepEndpoints own space name h object hobject kind hdeep)
  · rw [hendpoints.ofReply_ok]
    exact (judged_proper_or_spoilt space name own object endpoints).imp_right
      (.spoilt own space name h object endpoints hobject hendpoints _)

theorem own_proper_or_astray (h : l.own w = .ok own) (hservice : w.valueOf l.serviceVariable = [])
    (hpod : w.valueOf l.podIpVariable = [] ∨ (RawText.ofText (w.valueOf l.podIpVariable)).IsWord) :
    Proper (.ok (.text own)) ∨ l.Astray w (.ok (.text own)) := by
  by_cases hown : w.valueOf l.podIpVariable = []
  · rw [ServerLocator.own, if_pos hown] at h
    rcases hostFound_cases w with
      ⟨output, errors, hanswer, hfound⟩ | ⟨problem, hfound⟩ | ⟨problem, -, hfound⟩
    · cases hfound.symm.trans h
      by_cases hword : (RawText.ofText output.strip).IsWord
      · exact .inl (.address _ hword)
      · exact .inr (.host hown hservice output errors hanswer hword)
    · cases hfound.symm.trans h
    · cases hfound.symm.trans h
  · rw [ServerLocator.own, if_neg hown] at h
    cases h
    exact .inl (.address _ (hpod.resolve_left hown))

theorem own_refused {e : Failure} (h : l.own w = .error e) :
    Proper (.error e) ∨ l.Astray w (.error e) := by
  unfold ServerLocator.own at h
  split at h
  · rename_i hown
    rcases hostFound_cases w with
      ⟨_, _, _, hfound⟩ | ⟨problem, hfound⟩ | ⟨problem, hanswer, hfound⟩
    · cases hfound.symm.trans h
    · cases hfound.symm.trans h
      exact .inl (.refusal problem)
    · cases hfound.symm.trans h
      exact .inr (.undecodable hown problem hanswer)
  · cases h

theorem found_proper_or_astray
    (hpod : w.valueOf l.podIpVariable = [] ∨ (RawText.ofText (w.valueOf l.podIpVariable)).IsWord) :
    Proper (l.found w) ∨ l.Astray w (l.found w) := by
  cases hown : l.own w with
  | error e =>
    unfold ServerLocator.found
    rw [hown]
    exact own_refused hown
  | ok own =>
    by_cases hservice : w.valueOf l.serviceVariable = []
    · unfold ServerLocator.found
      rw [hown, hservice]
      exact own_proper_or_astray hown hservice hpod
    · by_cases hspace : w.valueOf l.namespaceVariable = []
      · unfold ServerLocator.found
        rw [hown]
        dsimp only [bind, Except.bind]
        rw [if_neg hservice, if_pos hspace]
        exact .inl (.refusal _)
      · exact Behind.proper_or_astray ⟨hown, rfl, hspace, rfl, hservice⟩

/-- The search for an address comes to a word or to a refusal, unless it goes astray. With replies
that have the shape of their kinds, a pod that knows its address and is behind a service goes astray
only if the address of the service is no word. -/
theorem resolve_usable (l : ServerLocator) (w : World)
    (hpod : w.valueOf l.podIpVariable = [] ∨ (RawText.ofText (w.valueOf l.podIpVariable)).IsWord) :
    (((∃ s : RawText, s.IsWord ∧ (l.resolve w).1 = .ok (.text s)) ∨
        ∃ problem, (l.resolve w).1 = .error (.provisioning (.server problem))) ↔
      ∀ r, ¬ l.Astray w r) ∧
    (∀ r, l.Astray w r → (l.resolve w).1 = r) ∧
    ∀ own space name service endpoints, l.Fronted w own space name service endpoints →
      ∀ r, l.Astray w r → ∃ ip, service = some (some ip) ∧ ¬ ip.IsWord ∧ r = .ok (.text ip) := by
  rw [l.resolve_result, ← proper_iff]
  refine ⟨⟨fun h r hastray => ?_, fun h => ?_⟩, fun r h => h.found, ?_⟩
  · exact hastray.not_proper (hastray.found ▸ h)
  · exact (found_proper_or_astray hpod).resolve_right (h _)
  · -- what objects of their shape come to is a refusal or an address, and a word would be proper
    intro own space name service endpoints hfronted r hastray
    have hr := hastray.found
    rw [hfronted.behind.found] at hr
    rcases hfronted.settles with ⟨ip, hip, hsettled⟩ | ⟨-, problem, hsettled⟩
    · refine ⟨ip, hip.service, fun hword => ?_, hr.symm.trans hsettled⟩
      exact hastray.not_proper (hr ▸ hsettled ▸ .address ip hword)
    · exact absurd (hr ▸ hsettled ▸ .refusal problem) hastray.not_proper

/-- A world in which the host tells something of itself. -/
def hostWorld (output : List UInt8) : World :=
  { World.ofFiles ⟨[]⟩ with otherResult := .finished 0 output [] }

def hostTelling (output : Text) : World := hostWorld (Text.Utf8.encode output)

/-- A world in which a pod is behind a service, and the cluster replies a number to everything. -/
def numberWorld : World :=
  { World.ofFiles ⟨[]⟩ with
    environment := [(['P'], ['1']), (['S'], ['s']), (['N'], ['n'])]
    otherReply := .response 200 ['1'] }

theorem resolve_usable_host :
    (podLocator.resolve (hostTelling ['1', '\n'])).1 = .ok (.text [.char '1']) ∧
    (∀ r, ¬ podLocator.Astray (hostTelling ['1', '\n']) r) ∧
    podLocator.Astray (hostTelling ['1', ' ', '2'])
      (.ok (.text (RawText.ofText ['1', ' ', '2']))) := by
  have hword : RawText.IsWord [.char '1'] := by
    refine ⟨by decide, fun p hp => ?_⟩
    rw [List.mem_singleton.mp hp]
    decide
  obtain ⟨hproper, -, -⟩ := resolve_usable podLocator (hostTelling ['1', '\n']) (.inl rfl)
  refine ⟨rfl, hproper.mp (.inl ⟨_, hword, rfl⟩), ?_⟩
  refine .host rfl rfl ['1', ' ', '2'] [] rfl fun h => ?_
  cases h.2 (.char ' ') (by decide)

/-- A host that tells nothing or several addresses is taken at its word, and the search ends with
what a host writes that is no text and with an object that is a number. -/
theorem resolve_unusable :
    (podLocator.resolve (hostTelling ['\n'])).1 = .ok (.text []) ∧
    (podLocator.resolve (hostTelling ['1', ' ', '2', '\n'])).1 =
      .ok (.text (RawText.ofText ['1', ' ', '2'])) ∧
    (podLocator.resolve (hostWorld [0xe9])).1 = .error (.undecodable ⟨.endOfData, 0, [0xe9]⟩) ∧
    (podLocator.resolve numberWorld).1 = .error (.shape (.noOperation .int "get")) := by
  exact ⟨rfl, rfl, rfl, rfl⟩

end ServerLocator
end NfsVolume
