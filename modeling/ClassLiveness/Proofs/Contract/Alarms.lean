import ClassLiveness.Proofs.Contract.SharedMachine

/-!
# Alarms

A pass raises the alarm when the host counts more than one live holder of a tag, and nothing
else raises it (`Tracker.counted_of_alarm`).  On a host that is shared as promised a tag is
on one class at most, and the holders of a tag are counted truly; so nobody counts more than
one, and there is no false alarm (`Hosting.no_false_alarm`).
-/

set_option autoImplicit false

namespace ClassLiveness

variable {σ C S : Type}

namespace Tracker

section

variable {host : Host σ C S} {tracker : Tracker S} {state : σ} {command : Command C}
  {after : Scene σ C S} {tag : Tag} {count : Nat}

/-! ## Where an alarm comes from -/

/-- The last call was a question about a tag, and was answered by more than one holder. -/
def Overcounted (host : Host σ C S) (state : σ) (tag : Tag) (count : Nat)
    (calls : List (CallRecord C S)) : Prop :=
  ∃ earlier session, calls = earlier ++ [⟨.liveCount session tag, none⟩] ∧
    (host.answer (.liveCount session tag) (host.replay state earlier)).1 = .ok count ∧ 1 < count

/-- The questions of a pass raise the alarm only if the last of them was answered by more
than one holder. -/
theorem overcounted_of_inquest {session : S}
    (failed : (tracker.inquest host session ⟨state, []⟩).failure? =
      some (.inconsistentTags tag count)) :
    Overcounted host state tag count (tracker.inquest host session ⟨state, []⟩).state.calls := by
  have ends := Registry.inquire_ends (host.isLive session) tracker.tracked ⟨state, []⟩
    (fun dialogue => dialogue.host = host.replay state dialogue.calls)
    (fun reason dialogue => reason = .inconsistentTags tag count →
      Overcounted host state tag count dialogue.calls) ?_ ?_ rfl
  · exact ends.2 _ failed rfl
  · intro asked dialogue live later atHost told
    rw [Host.isLive_ok_extend told]
    exact Host.replay_extend atHost _
  · rintro asked dialogue _ later atHost told rfl
    rw [Host.isLive_apply] at told
    split at told
    · cases told
    · cases told
    · cases told
    · rename_i extra answered notZero notOne counted
      cases told
      refine ⟨dialogue.calls, session, rfl, ?_, ?_⟩
      · rw [← atHost, counted]
      · exact Nat.one_lt_iff_ne_zero_and_ne_one.mpr ⟨notZero, notOne⟩

/-- **The alarm is raised only by a host that counts more than one holder.** -/
theorem Course.overcounted
    (course : Course host (.start tracker state) command
      (.error (.error (.inconsistentTags tag count))) after) :
    Overcounted host state tag count after.calls := by
  cases course with
  | refused refuses =>
      obtain impossible | impossible | impossible := refuses.isRefusal <;> cases impossible
  | unstarted _ _ populated => exact populated.ofTracking.elim
  | unadded _ _ attempt => exact attempt.ofTracking.elim
  | unpassed _ _ _ inspection =>
      cases inspection with
      | failed _ failed => exact overcounted_of_inquest failed

theorem counted_of_alarm (sound : tracker.Sound)
    (alarm : (tracker.perform host command state).result =
      .error (.error (.inconsistentTags tag count))) :
    ∃ meeting ∈ host.meetings state (tracker.perform host command state).calls, ∃ session,
      meeting.record.call = .liveCount session tag ∧
        (host.answer (.liveCount session tag) meeting.state).1 = .ok count ∧ 1 < count := by
  obtain ⟨after, outcome, course⟩ := perform_course host command tracker state sound.keeps
  have sameCalls := congrArg Outcome.calls outcome
  rw [alarm] at course
  obtain ⟨earlier, session, calls, counted, more⟩ := course.overcounted
  refine ⟨⟨host.replay state earlier, ⟨.liveCount session tag, none⟩⟩, ?_, session, rfl, counted,
    more⟩
  rw [sameCalls]
  change _ ∈ host.meetings state after.calls
  rw [calls, Host.meetings_append]
  exact List.mem_append_right _ (List.mem_singleton_self _)

end

end Tracker

/-! ## Counts on a shared host -/

open Tracker

/-- A session that is not crowded has at most one live holder of a tag. -/
theorem Uncrowded.count_le_one {given : C → Option Tag} {bound : Nat}
    (uncrowded : Uncrowded given bound) {tag : Tag} {holders : List C} (once : holders.Nodup)
    (carry : ∀ handle ∈ holders, given handle = some tag) : holders.length ≤ 1 := by
  match holders with
  | [] => exact Nat.zero_le 1
  | [_] => exact Nat.le_refl 1
  | first :: second :: rest =>
      have same := uncrowded.injective first second tag (carry first List.mem_cons_self)
        (carry second (List.mem_cons_of_mem _ List.mem_cons_self))
      rw [same] at once
      exact absurd List.mem_cons_self (List.nodup_cons.mp once).1

section

variable {host : Host σ C S} {contract : SharedContract host} {tracker : Tracker S} {state : σ}

/-- A question about the holders of a tag is answered by none or one of them, if it is
answered. -/
def Host.CountsOne (host : Host σ C S) (meeting : Meeting σ C S) : Prop :=
  ∀ session tag (count : Nat), meeting.record.call = .liveCount session tag →
    (host.answer (.liveCount session tag) meeting.state).1 = .ok count → count ≤ 1

/-- During the questions of a pass the session stays as it was, and each is answered by none or
one. -/
structure Consistent (contract : SharedContract host) (state : σ) (session : S)
    (given : C → Option Tag) (dialogue : Dialogue σ C S) : Prop where
  lawful : contract.lawful dialogue.host
  isOpen : contract.tags dialogue.host session = some given
  atHost : dialogue.host = host.replay state dialogue.calls
  countsOne : ∀ meeting ∈ host.meetings state dialogue.calls, host.CountsOne meeting

theorem Consistent.carries {session : S} {given : C → Option Tag} {bound : Nat}
    (uncrowded : Uncrowded given bound) (tag : Tag) :
    host.Carries (.liveCount session tag) (Consistent contract state session given) := by
  intro dialogue consistent
  refine ⟨contract.lawful_after _ _ consistent.lawful,
    contract.apart consistent.lawful consistent.isOpen nofun,
    Host.replay_extend consistent.atHost _, ?_⟩
  intro meeting member
  rcases host.mem_meetings_snoc member with earlier | rfl
  · exact consistent.countsOne meeting earlier
  · intro asked other count sameCall counted
    cases sameCall
    rw [← consistent.atHost] at counted
    rcases answered : host.answer (.liveCount session tag) dialogue.host with ⟨answer, after⟩
    rw [answered] at counted
    cases counted
    obtain ⟨holders, once, rfl, holds⟩ :=
      contract.counts consistent.lawful consistent.isOpen answered
    exact uncrowded.count_le_one once fun handle holder => ((holds handle).mp holder).2

/-- Every question about the holders of a tag is answered by none or one of them. -/
theorem Tracker.Placed.countsOne (placed : Placed contract tracker state)
    (lawful : contract.lawful state) (command : Command C) :
    ∀ meeting ∈ host.meetings state (tracker.perform host command state).calls,
      host.CountsOne meeting := by
  intro meeting member session tag count isQuestion
  have keeps := placed.sound.keeps
  have made : meeting.record ∈ (tracker.perform host command state).calls := by
    rw [← host.map_record_meetings state (tracker.perform host command state).calls]
    exact List.mem_map_of_mem member
  have mayMake := mayMake_of_mem_calls host command state keeps _ made
  rw [isQuestion] at mayMake
  cases mayMake with
  | enumerating _ _ tracks => cases tracks
  | adding _ _ tracks => cases tracks
  | counting _ isPass usable opened =>
      obtain ⟨given, isOpen, uncrowded⟩ := placed.isOpen session opened
      have consistent := perform_carries host command state keeps
        (Consistent contract state session given) ?_ ⟨lawful, isOpen, rfl, nofun⟩
      · exact consistent.countsOne meeting member session tag count isQuestion
      · intro call mayMake
        rcases isPass with rfl | rfl
        all_goals
          cases mayMake with
          | counting other _ _ openedOther =>
              cases opened.symm.trans openedOther
              exact Consistent.carries (uncrowded usable) other

/-- **There is no false alarm.**  Any number of trackers share a host that keeps its promises,
each with settings of its own, and whatever they have done and whatever has happened to the
host: when one of them carries out a command, every question about the holders of a tag that
is answered is answered by none or one of them, and the command does not fail because there
were more. -/
theorem Hosting.no_false_alarm {trackers : List (Tracker S)}
    (hosting : Hosting contract trackers state) {number : Nat}
    (found : trackers[number]? = some tracker) (command : Command C) :
    (∀ meeting ∈ host.meetings state (tracker.perform host command state).calls,
      ∀ session tag (count : Nat), meeting.record.call = .liveCount session tag →
        (host.answer (.liveCount session tag) meeting.state).1 = .ok count →
          count = 0 ∨ count = 1) ∧
    ∀ tag count, (tracker.perform host command state).result ≠
      .error (.error (.inconsistentTags tag count)) := by
  have hosted := hosting.hosted
  have placed := hosted.placed tracker (List.mem_of_getElem? found)
  have countsOne := placed.countsOne hosted.lawful command
  refine ⟨?_, ?_⟩
  · intro meeting member session tag count asked counted
    have atMost := countsOne meeting member session tag count asked counted
    omega
  · intro tag count alarm
    obtain ⟨meeting, member, session, asked, counted, more⟩ := counted_of_alarm placed.sound alarm
    have atMost := countsOne meeting member session tag count asked counted
    omega

end

/-- A class that carries the second of its two tags is the holder of this one, and the first
has none. -/
theorem Scenario.quiet_of_retagged :
    Hosting Machine.sharedContract company.trackers company.machine ∧
      company.trackers[0]? = some retagged ∧
      (∀ tag count, (retagged.perform Machine.host .processUnloads company.machine).result ≠
        .error (.error (.inconsistentTags tag count))) ∧
      (retagged.perform Machine.host .processUnloads company.machine).calls =
        [⟨.liveCount 0 ⟨2, by decide, by decide⟩, none⟩,
          ⟨.liveCount 0 ⟨1, by decide, by decide⟩, none⟩] ∧
      (retagged.perform Machine.host .processUnloads company.machine).result =
        .ok (.report ⟨["LFirst;"]⟩) := by
  have quiet := hosting_company.no_false_alarm found_retagged .processUnloads
  exact ⟨hosting_company, found_retagged, quiet.2, by decide +kernel, by decide +kernel⟩

end ClassLiveness
