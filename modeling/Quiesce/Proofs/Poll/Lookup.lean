/-
# What a poll looks up

A poll is answered with the record of the name that its bytes show, and it changes no record. The
name is taken as it comes: what is a text is looked up exactly as it was sent, blanks, letter case
and all, and what is none, a character cut at the limit included, shows U+FFFD and so finds no
proxy without it. `poll_looks_up_verbatim` says so for every agent and every payload.
-/

import Quiesce.Agent
import Quiesce.Proofs.Text.Lossy
import Quiesce.Proofs.Text.Order

namespace Quiesce

/-- Only an unknown proxy is answered with nothing but its being down. -/
theorem Poll.reply_eq_down_iff {record : Option Record} :
    reply record = "down\r\n" ↔ record = none := by
  cases record with
  | none => exact ⟨fun _ => rfl, fun _ => rfl⟩
  | some record =>
    refine ⟨fun same => ?_, nofun⟩
    have begins : "maxconn:".toList = 'm' :: "axconn:".toList := by decide
    have letters := congrArg String.toList same
    simp only [reply, toString, String.toList_append, begins, List.cons_append] at letters
    exact absurd (List.cons.inj letters).1 (by decide)

/-- A poll is answered with the record of the name that its first 1024 bytes show; it changes no
record, and bytes beyond these make no difference. When they are a text, the name is that text and
nothing else, so its own record is told, and only an unknown name is down. When they are none, as
when the limit cuts a character, the name holds U+FFFD, so the answer depends on no record whose
name lacks it. -/
theorem poll_looks_up_verbatim (agent : Agent) (payload : List UInt8) :
    let read := payload.take 1024
    let name := Poll.nameOf payload
    let polled := agent.poll (some payload)
    (Utf8.Shows read name.toList ∧ polled.1 = Poll.reply (agent.roster.find? name)) ∧
    polled.2.roster = agent.roster ∧
    (∀ other : List UInt8, other.take 1024 = read → agent.poll (some other) = polled) ∧
    (∀ text, read = Utf8.encode text → name = text ∧
      (polled.1 = "down\r\n" ↔ agent.roster.find? text = none)) ∧
    ((∀ text, read ≠ Utf8.encode text) → '\uFFFD' ∈ name.toList ∧
      ∀ other : Agent, (∀ known, '\uFFFD' ∈ known.toList →
        other.roster.find? known = agent.roster.find? known) →
          (other.poll (some payload)).1 = polled.1) ∧
    ∀ before c after, payload = Utf8.encode before ++ String.utf8EncodeChar c ++ after →
      (Utf8.encode before).length < 1024 →
      1024 < (Utf8.encode before).length + (String.utf8EncodeChar c).length →
        ∀ text, read ≠ Utf8.encode text := by
  intro read name polled
  refine ⟨⟨Utf8.shows_iff.mpr rfl, rfl⟩, rfl, ?_, ?_, ?_, ?_⟩
  · intro other same
    have sameName : Poll.nameOf other = name := congrArg Utf8.decodeLossy same
    simp only [polled, Agent.poll, sameName, name]
  · intro text whole
    have named : name = text := by
      rw [← Utf8.decodeLossy_encode text, ← whole]
      rfl
    exact ⟨named, named ▸ Poll.reply_eq_down_iff⟩
  · intro noText
    have shown : '\uFFFD' ∈ name.toList := Utf8.mem_decodeLossy_of_ne_encode noText
    refine ⟨shown, fun other same => ?_⟩
    exact congrArg Poll.reply (same name shown)
  · rintro before c after rfl begun unfinished
    exact Utf8.take_ne_encode_of_cut begun unfinished

/-- One lobby is known. It is found by its name alone, not with a line end after it, and neither
half a character nor a name that is cut within its last one is looked up as a text. -/
theorem poll_looks_up_verbatim_at_lobby :
    let agent := (Agent.start "Proxy" 10).overrideWith "lobby-1" .up none
    let long := String.ofList (List.replicate 1023 'a')
    Poll.nameOf (Utf8.encode "lobby-1") = "lobby-1" ∧
      (agent.poll (some (Utf8.encode "lobby-1"))).1 ≠ "down\r\n" ∧
      (agent.poll (some (Utf8.encode "lobby-1\n"))).1 = "down\r\n" ∧
      '\uFFFD' ∈ (Poll.nameOf (Utf8.encode long ++ String.utf8EncodeChar 'ü')).toList := by
  intro agent long
  obtain ⟨-, -, -, exactly, -⟩ := poll_looks_up_verbatim agent (Utf8.encode "lobby-1")
  obtain ⟨-, -, -, withEnd, -⟩ := poll_looks_up_verbatim agent (Utf8.encode "lobby-1\n")
  obtain ⟨-, -, -, -, noText, cut⟩ :=
    poll_looks_up_verbatim agent (Utf8.encode long ++ String.utf8EncodeChar 'ü')
  obtain ⟨named, known⟩ := exactly "lobby-1" (by decide +kernel)
  obtain ⟨-, unknown⟩ := withEnd "lobby-1\n" (by decide +kernel)
  have length : (Utf8.encode long).length = 1023 := by
    have single : (String.utf8EncodeChar 'a').length = 1 := by decide
    simp only [Utf8.encode, long, String.toList_ofList, List.length_flatMap, List.map_replicate,
      single, List.sum_replicate_nat]
  have isCut := cut long 'ü' [] (List.append_nil _).symm (by rw [length]; decide)
    (by rw [length]; decide)
  exact ⟨named, mt known.mp (by decide +kernel), unknown.mpr (by decide +kernel),
    (noText isCut).1⟩

end Quiesce
