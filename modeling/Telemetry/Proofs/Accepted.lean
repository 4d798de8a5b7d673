import Telemetry.Proofs.Failing
import Telemetry.Proofs.Keyed
import Telemetry.Config.Read

/-!
# What an accepted configuration guarantees

Checking a configuration returns nothing, so all that later stages may rely on is what the checks
themselves say. **`Logging.Accepted`** gathers it for the logging domain, one field for each kind of
check, and **`Config.logging_accepted`** gets it from a configuration that passes its check, as each
does that was read (**`Config.check_of_read`**). No later proof opens the checking functions again.
-/

namespace Telemetry

open Failing

/-- What the checks say about a logging domain that passes them. -/
structure Logging.Accepted (l : Logging) : Prop where
  /-- No id of any role is reserved. -/
  ids : l.checkIds = .ok ()
  receivers : ∀ id r, l.receivers.get? id = some r → r.check id = .ok ()
  processors : ∀ id p, l.processors.get? id = some p → p.check id = .ok ()
  /-- No two receivers listen on one port. -/
  ports : Logging.checkPorts [] l.receivers.entries = .ok ()

/-- A domain that passes its check is accepted. -/
theorem Logging.accepted_of_check {l : Logging} (h : l.check = .ok ()) : l.Accepted := by
  rw [Logging.check] at h
  obtain ⟨_, hids, h⟩ := bind_eq_ok.mp h
  obtain ⟨_, -, h⟩ := bind_eq_ok.mp h
  obtain ⟨_, hreceivers, h⟩ := bind_eq_ok.mp h
  obtain ⟨_, hprocessors, hports⟩ := bind_eq_ok.mp h
  refine ⟨mapError_eq_ok.mp hids, ?_, ?_, mapError_eq_ok.mp hports⟩
  · intro id r hr
    exact forM_eq_ok.mp hreceivers (id, r) (Keyed.mem_entries_iff.mpr hr)
  · intro id p hp
    exact mapError_eq_ok.mp (forM_eq_ok.mp hprocessors (id, p) (Keyed.mem_entries_iff.mpr hp))

/-- A text is read as a configuration that passes its check. -/
theorem Config.check_of_read {text : String} {c : Config} (h : Config.read text = .ok c) :
    c.check = .ok () := by
  unfold Config.read Config.accept at h
  cases hp : Config.parse? text with
  | none =>
      rw [hp] at h
      exact nomatch h
  | some c' =>
      rw [hp] at h
      obtain ⟨_, hc, h⟩ := bind_eq_ok.mp h
      obtain rfl : c' = c := Except.ok.inj h
      exact hc

/-- The domains of a configuration that passes its check pass their own. -/
theorem Config.logging_check {c : Config} {l : Logging} (hc : c.check = .ok ())
    (hl : c.logging = some l) : l.check = .ok () := by
  rw [Config.check] at hc
  obtain ⟨_, hlogging, -⟩ := bind_eq_ok.mp hc
  exact forM_eq_ok.mp hlogging l (Option.mem_toList.mpr hl)

theorem Config.metrics_check {c : Config} {m : Metrics} (hc : c.check = .ok ())
    (hm : c.metrics = some m) : m.check = .ok () := by
  rw [Config.check] at hc
  obtain ⟨_, -, hmetrics⟩ := bind_eq_ok.mp hc
  exact forM_eq_ok.mp hmetrics m (Option.mem_toList.mpr hm)

/-- The logging domain of a configuration that passes its check is accepted. -/
theorem Config.logging_accepted {c : Config} {l : Logging} (hc : c.check = .ok ())
    (hl : c.logging = some l) : l.Accepted :=
  Logging.accepted_of_check (Config.logging_check hc hl)

/-- The metrics domain of a configuration that passes its check has no reserved ids. -/
theorem Config.metrics_checkIds {c : Config} {m : Metrics} (hc : c.check = .ok ())
    (hm : c.metrics = some m) : m.checkIds = .ok () := by
  obtain ⟨_, hids, -⟩ := bind_eq_ok.mp (Config.metrics_check hc hm)
  exact mapError_eq_ok.mp hids

/-- What follows a dot does not make a text reserved, because reserved ids begin without one. -/
theorem isReserved_append_dot (a b : String) : isReserved (a ++ "." ++ b) = isReserved a := by
  have key : ∀ (head as bs : List Char), '.' ∉ head →
      head.isPrefixOf (as ++ '.' :: bs) = head.isPrefixOf as := by
    intro head
    induction head with
    | nil => exact fun _ _ _ => rfl
    | cons h head ih =>
        intro as bs hdot
        rw [List.mem_cons, not_or] at hdot
        cases as with
        | nil => simp [List.isPrefixOf, Ne.symm hdot.1]
        | cons a as =>
            rw [List.cons_append, List.isPrefixOf, List.isPrefixOf, ih as bs hdot.2]
  have hl : (a ++ "." ++ b).toList = a.toList ++ '.' :: b.toList := by simp
  rw [isReserved, isReserved, Text.startsWith, Text.startsWith, hl]
  exact key _ _ _ (by decide)

/-- No id in a list that passes the check for reserved ids is reserved. -/
theorem not_isReserved_of_check {domain : Domain} {role : Role} {ids : List String}
    (h : checkReserved domain role ids = .ok ()) : ∀ id ∈ ids, isReserved id = false := by
  rw [checkReserved] at h
  cases hf : ids.find? isReserved with
  | some id =>
      rw [hf] at h
      exact nomatch h
  | none =>
      intro id hid
      simpa using List.find?_eq_none.mp hf id hid

/-- No id of an accepted domain is reserved, whatever its role. -/
theorem Logging.Accepted.not_reserved {l : Logging} (h : l.Accepted) {id : String}
    (hid : id ∈ l.receivers.keys ∨ id ∈ l.processors.keys ∨ id ∈ l.exporters.keys ∨
      id ∈ l.pipelines.keys) : isReserved id = false := by
  have hids := h.ids
  rw [Logging.checkIds] at hids
  obtain ⟨_, hreceivers, hids⟩ := bind_eq_ok.mp hids
  obtain ⟨_, hprocessors, hids⟩ := bind_eq_ok.mp hids
  obtain ⟨_, hexporters, hpipelines⟩ := bind_eq_ok.mp hids
  rcases hid with hid | hid | hid | hid
  · exact not_isReserved_of_check hreceivers id hid
  · exact not_isReserved_of_check hprocessors id hid
  · exact not_isReserved_of_check hexporters id hid
  · exact not_isReserved_of_check hpipelines id hid

end Telemetry
