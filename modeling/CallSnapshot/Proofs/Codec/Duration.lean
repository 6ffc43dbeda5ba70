import CallSnapshot.Proofs.Codec.Decoding
import CallSnapshot.Proofs.Time.Range

/-!
Durations that are written as their lengths and read back. Whole seconds and whatever is shorter than
`2 ^ 33` seconds are kept; of longer ones only those that are the reading of some length. The last
7812 microseconds of the range are read as a day that there is none of.
-/

namespace CallSnapshot.Codec

open Noting Duration

variable {mode : Mode}

lemma decode_length (mode : Mode) (x : Binary64) : decode mode (tagged "timedelta" [("seconds", .float x)]) =
    settle ((ofSeconds x).mapError durationFault) >>= fun d => pure (.duration d) := by
  obtain ⟨fuel, hfuel⟩ := Nat.exists_eq_succ_of_ne_zero
    (size_pos (tagged "timedelta" [("seconds", .float x)])).ne'
  rw [decode, hfuel, decodeTo]
  simp [decodeNode, decodeTagged, tagged, tagKey, Json.find?, field, settle_ok, decodeDuration]

lemma decode_length_ok {x : Binary64} {d : Duration} (h : ofSeconds x = .ok d) :
    decode mode (tagged "timedelta" [("seconds", .float x)]) = pure (.duration d) := by
  rw [decode_length, h]
  rfl

lemma decode_length_iff {x : Binary64} {d : Duration} :
    decode mode (tagged "timedelta" [("seconds", .float x)]) = pure (.duration d) ↔ ofSeconds x = .ok d := by
  refine ⟨fun h => ?_, decode_length_ok⟩
  have hstart := congrArg (fun c => (start c).1) h
  rw [decode_length] at hstart
  cases hx : ofSeconds x with
  | error e =>
    rw [hx] at hstart
    cases hstart
  | ok c =>
    rw [hx] at hstart
    cases hstart
    rfl

/-- Every duration that there can be is written. It is read back if and only if some length is read as
it; whole seconds and what is shorter than `2 ^ 33` seconds are. Others are read as one that is no
more than 7813 microseconds away, but for the last few, whose length is a day too long. -/
theorem duration_read_back (mode : Mode) (heap : Heap) {d : Duration} (hd : d.check = .ok d) :
    ∃ data, encode heap (.duration d) = .ok data ∧
      (decode mode data = pure (.duration d) ↔ ∃ x : Binary64, x.Valid ∧ ofSeconds x = .ok d) ∧
      (|d.micros| < 2 ^ 33 * 1000000 ∨ 1000000 ∣ d.micros → decode mode data = pure (.duration d)) ∧
      (d.micros ≤ lastKept → ∃ e : Duration, decode mode data = pure (.duration e) ∧
        |e.micros - d.micros| ≤ 7813) ∧
      (lastKept < d.micros → decode mode data =
        fail .overflow "days=1000000000; must have magnitude <= 999999999") := by
  obtain ⟨n⟩ := d
  obtain ⟨hlow, hhigh⟩ := check_iff.mp hd
  refine ⟨_, rfl, decode_length_iff.trans settled_iff, ?_, ?_, ?_⟩
  · intro hn
    apply decode_length_ok
    rw [← hd]
    rcases hn with hsmall | ⟨k, hk⟩
    · exact ofSeconds_small hsmall
    · dsimp only at hk
      rw [mul_comm] at hk
      have hsize : k.natAbs ≤ 2 ^ 53 := by
        rw [least] at hlow
        rw [greatest] at hhigh
        omega
      rw [hk]
      exact ofSeconds_whole hsize
  · intro hlast
    obtain ⟨k, hk, hclose⟩ := ofSeconds_within hlow hlast
    exact ⟨⟨k⟩, decode_length_ok hk, hclose⟩
  · intro hlast
    rw [decode_length, ofSeconds_beyond hlast hhigh]
    rfl

/-- A microsecond more than `2 ^ 33` seconds is read as two more. -/
theorem duration_read_back_longer :
    check ⟨8589934592000001⟩ = .ok ⟨8589934592000001⟩ ∧
    ∃ data, encode [] (.duration ⟨8589934592000001⟩) = .ok data ∧
      decode none data ≠ pure (.duration ⟨8589934592000001⟩) ∧
      ∃ e : Duration, decode none data = pure (.duration e) ∧ |e.micros - 8589934592000001| ≤ 7813 := by
  have hd : check ⟨8589934592000001⟩ = .ok ⟨8589934592000001⟩ := by decide
  obtain ⟨data, hdata, hback, -, hnear, -⟩ := duration_read_back none [] hd
  refine ⟨hd, data, hdata, ?_, hnear (by decide)⟩
  rw [ne_eq, hback, ← settled_iff, Settled]
  decide +kernel

end CallSnapshot.Codec
