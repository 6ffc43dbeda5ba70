import CallSnapshot.Proofs.Codec.Decoding
import CallSnapshot.Proofs.Codec.Encoding
import CallSnapshot.Proofs.Value.Same

/-!
Plain values come back from their data as they were, but for times: an offset of less than a second
is read back as none at all.
-/

namespace CallSnapshot

namespace Value

/-- All times in a value have offsets that are read back. -/
def Readable : Value → Prop :=
  Everywhere fun x => (∀ t, x = .time t → t.Readable) ∧ ∀ m, x = .datetime m → m.time.Readable

lemma readable_iff {v : Value} (ht : ∀ t, v ≠ .time t) (hm : ∀ m, v ≠ .datetime m) :
    v.Readable ↔ ∀ p ∈ v.parts, p.Readable := by
  rw [Readable, everywhere_iff]
  exact and_iff_right ⟨fun t h => absurd h (ht t), fun m h => absurd h (hm m)⟩

/-- What an atom is read back as. -/
def heard : Value → Value
  | .time t => .time t.kept
  | .datetime m => .datetime ⟨m.date, m.time.kept⟩
  | v => v

lemma Same.readable {v w : Value} (h : Same v w) (hw : w.Readable) : v.Readable := by
  induction h with
  | refl => exact hw
  | list hl _ ih | tuple hl _ ih =>
    rw [readable_iff (by simp) (by simp)] at hw ⊢
    intro x hx
    obtain ⟨i, hi, rfl⟩ := List.getElem_of_mem hx
    exact ih i _ _ (List.getElem?_eq_getElem hi) (List.getElem?_eq_getElem (hl ▸ hi)) (hw _ (List.getElem_mem _))
  | set hl _ hp ih | frozenset hl _ hp ih =>
    rw [readable_iff (by simp) (by simp)] at hw ⊢
    intro x hx
    obtain ⟨i, hi, rfl⟩ := List.getElem_of_mem hx
    exact ih i _ _ (List.getElem?_eq_getElem hi) (List.getElem?_eq_getElem (hl ▸ hi))
      (hw _ (hp.mem_iff.mp (List.getElem_mem _)))
  | @dict es fs hl _ _ ihk ihv =>
    rw [readable_iff (by simp) (by simp), parts, List.forall_mem_append, List.forall_mem_map,
      List.forall_mem_map] at hw ⊢
    refine ⟨fun e he => ?_, fun e he => ?_⟩
    · obtain ⟨i, hi, rfl⟩ := List.getElem_of_mem he
      exact ihk i _ _ (List.getElem?_eq_getElem hi) (List.getElem?_eq_getElem (hl ▸ hi)) (hw.1 _ (List.getElem_mem _))
    · obtain ⟨i, hi, rfl⟩ := List.getElem_of_mem he
      exact ihv i _ _ (List.getElem?_eq_getElem hi) (List.getElem?_eq_getElem (hl ▸ hi)) (hw.2 _ (List.getElem_mem _))

end Value

namespace Codec

open Value (Plain Basic Atom Distinct Readable Same everywhere_atom everywhere_of_parts_eq_nil forall_right
  readable_iff)

variable {mode : Mode} {follow : ℕ → Except Fault Json} {data : Json}

lemma kept_readable (t : ClockTime) : t.kept.Readable := by
  rw [← ClockTime.kept_eq_iff]
  simp only [ClockTime.kept, Option.map_map]
  congr 2
  funext o
  simp only [Function.comp_apply, Iso.heard]
  split <;> simp_all

/-- What a value is read back as: a value with readable times, the same where those were. -/
structure ReadsAs (v w : Value) : Prop where
  readable : w.Readable
  hash : v.hashFault? = none → w.hashFault? = none
  same : v.Readable → Same v w

lemma readsAs_self {v : Value} (h : v.Readable) : ReadsAs v v :=
  ⟨h, id, fun _ => .refl v⟩

lemma decodes_heard {v : Value} (hv : Atom v) (h : encodeWith follow v = .ok data) : Decodes mode data v.heard := by
  cases hv <;> rw [encodeWith] at h <;> cases h
  case null => exact .of_node fun _ => rfl
  case bool => exact .of_node fun _ => rfl
  case int => exact .of_node fun _ => rfl
  case str => exact .of_node fun _ => rfl
  case float x _ => exact decodes_float x
  case bytes bs => exact decodes_bytes bs
  case date h => exact decodes_date h
  case time h => exact decodes_time h
  case datetime h => exact decodes_datetime h
  case decimal h => exact decodes_decimal h
  case complex x y _ _ => exact decodes_complex x y
  case uuid h => exact decodes_uuid h
  case path h => exact decodes_path h

lemma Decodes.unique {v w : Value} (hv : Decodes mode data v) (hw : Decodes mode data w) : v = w := by
  have hstart := congrArg (fun c => (Noting.start c).1) (hv.decode.symm.trans hw.decode)
  exact Except.ok.inj hstart

lemma exists_decoded_atom {v : Value} (hv : Atom v) {data : Json}
    (h : encodeWith follow v = .ok data) : ∃ w, Decodes mode data w ∧ ReadsAs v w := by
  refine ⟨v.heard, decodes_heard hv h, ?_⟩
  have self : (∀ t, v ≠ .time t) → (∀ m, v ≠ .datetime m) → ReadsAs v v := fun ht hm =>
    readsAs_self ((readable_iff ht hm).mpr (by simp [hv.parts_eq_nil]))
  cases hv with
  | time ht =>
    refine ⟨?_, fun _ => rfl, fun hr => ?_⟩
    · exact (everywhere_atom (.time (Iso.valid_kept ht))).mpr ⟨by simp [kept_readable], nofun⟩
    · rw [Value.heard, ClockTime.kept_eq_iff.mpr (((everywhere_atom (.time ht)).mp hr).1 _ rfl)]
      exact .refl _
  | @datetime m hm =>
    refine ⟨?_, fun _ => rfl, fun hr => ?_⟩
    · have hk : DateTime.Valid ⟨m.date, m.time.kept⟩ := ⟨hm.1, Iso.valid_kept hm.2⟩
      exact (everywhere_atom (.datetime hk)).mpr ⟨nofun, by simp [kept_readable]⟩
    · rw [Value.heard, ClockTime.kept_eq_iff.mpr (((everywhere_atom (.datetime hm)).mp hr).2 _ rfl)]
      exact .refl _
  | _ => exact self nofun nofun

lemma decodes_duration {d : Duration} (h : d.Settled) :
    Decodes mode (tagged "timedelta" [("seconds", .float d.totalSeconds)]) (.duration d) := by
  have hd : decodeDuration (.float d.totalSeconds) = .ok d := by
    rw [decodeDuration, h]
    rfl
  refine .of_node fun recur => ?_
  simp [tagged, decodeNode, Json.find?, decodeTagged, field, settle_ok, tagKey, hd]

lemma forall₂_triple {α β γ : Type} {r : α → β → Prop} {p : β → γ → Prop} {q : α → γ → Prop}
    {xs : List α} {ys : List β} (h : List.Forall₂ r xs ys)
    (ih : ∀ x ∈ xs, ∀ y, r x y → ∃ z, p y z ∧ q x z) :
    ∃ zs, List.Forall₂ p ys zs ∧ List.Forall₂ q xs zs := by
  induction h with
  | nil => exact ⟨[], .nil, .nil⟩
  | cons hxy _ rest =>
    simp only [List.forall_mem_cons] at ih
    obtain ⟨z, hp, hq⟩ := ih.1 _ hxy
    obtain ⟨zs, hps, hqs⟩ := rest ih.2
    exact ⟨z :: zs, .cons hp hps, .cons hq hqs⟩

lemma forall₂_imp_mem {α β : Type} {r q : α → β → Prop} {xs : List α} {ys : List β}
    (h : List.Forall₂ r xs ys) (hr : ∀ x ∈ xs, ∀ y, r x y → q x y) : List.Forall₂ q xs ys := by
  induction h with
  | nil => exact .nil
  | cons hxy _ ih =>
    simp only [List.forall_mem_cons] at hr
    exact .cons (hr.1 _ hxy) (ih hr.2)

lemma same_items {xs ws : List Value} (h : List.Forall₂ ReadsAs xs ws)
    (hr : ∀ x ∈ xs, x.Readable) : List.Forall₂ Same xs ws := by
  induction h with
  | nil => exact .nil
  | cons hx _ ih =>
    simp only [List.forall_mem_cons] at hr
    exact .cons (hx.same hr.1) (ih hr.2)

lemma exists_decoded_elements {tag : String} {xs : List Value} {data : Json}
    (hx : ∀ x ∈ xs, Basic x) (hh : ∀ x ∈ xs, x.hashFault? = none) (hd : Distinct xs)
    (h : SetData follow tag xs data)
    (ih : ∀ x ∈ xs, ∀ y, encodeWith follow x = .ok y → ∃ w, Decodes mode y w ∧ ReadsAs x w) :
    ∃ zs us, data = tagged tag [("items", .arr zs)] ∧ List.Forall₂ (Decodes mode) zs us ∧
      (∀ u ∈ us, u.hashFault? = none ∧ u.Readable) ∧
      ((∀ x ∈ xs, x.Readable) →
        ∃ ws, List.Forall₂ Same xs ws ∧ ws.Perm us ∧ gather [] us = us) := by
  obtain ⟨ys, zs, hys, hzs, rfl⟩ := h
  obtain ⟨ws, hdec, hreads⟩ := forall₂_triple hys ih
  obtain ⟨us, hus, hperm⟩ := List.perm_comp_forall₂ (sortItems_eq_ok hzs).1 hdec
  have hws : ∀ w ∈ ws, w.hashFault? = none ∧ w.Readable :=
    forall_right hreads fun x hm w hr => ⟨hr.hash (hh x hm), hr.readable⟩
  refine ⟨zs, us, rfl, hus, fun u hu => hws u (hperm.mem_iff.mp hu), fun hr => ?_⟩
  have hsame := same_items hreads hr
  have hxs : ∀ x ∈ xs, x.Hashed := fun x hm => (hx x hm).hashed (hh x hm)
  have hdist : Distinct us := (hd.of_same hxs hsame).perm (Value.hashed_of_same hxs hsame) hperm.symm
  exact ⟨ws, hsame, hperm.symm, gather_distinct (show Distinct ([] ++ _) from hdist)⟩

lemma forall₂_zip {α β γ : Type} {q : β → γ → Prop} {es : List (α × β)} {ws : List γ}
    (h : List.Forall₂ q (es.map Prod.snd) ws) :
    List.Forall₂ (fun e f => f.1 = e.1 ∧ q e.2 f.2) es ((es.map Prod.fst).zip ws) := by
  induction es generalizing ws with
  | nil => exact .nil
  | cons e es ih =>
    cases h with
    | cons hw h => exact .cons ⟨rfl, hw⟩ (ih h)

lemma readable_dict {fs : List (Value × Value)} : Readable (.dict fs) ↔
    (∀ f ∈ fs, f.1.Readable) ∧ ∀ f ∈ fs, f.2.Readable := by
  rw [readable_iff (by simp) (by simp), Value.parts, List.forall_mem_append, List.forall_mem_map,
    List.forall_mem_map]

def EntryReadsAs (e f : Value × Value) : Prop := ReadsAs e.1 f.1 ∧ ReadsAs e.2 f.2

lemma same_entries {es fs : List (Value × Value)} (h : List.Forall₂ EntryReadsAs es fs)
    (hr : Readable (.dict es)) :
    List.Forall₂ (fun e f => Same e.1 f.1 ∧ Same e.2 f.2) es fs ∧
      List.Forall₂ Same (es.map Prod.fst) (fs.map Prod.fst) := by
  rw [readable_dict] at hr
  induction h with
  | nil => exact ⟨.nil, .nil⟩
  | @cons e f es fs h _ ih =>
    simp only [List.forall_mem_cons] at hr
    obtain ⟨h₁, h₂⟩ := ih ⟨hr.1.2, hr.2.2⟩
    have hk := h.1.same hr.1.1
    exact ⟨.cons ⟨hk, h.2.same hr.2.1⟩ h₁, .cons hk h₂⟩

lemma exists_decoded_dict {es : List (Value × Value)} {data : Json}
    (hk : ∀ e ∈ es, Basic e.1) (hh : ∀ e ∈ es, e.1.hashFault? = none) (hd : Distinct (es.map Prod.fst))
    (h : encodeWith follow (.dict es) = .ok data)
    (ihk : ∀ e ∈ es, ∀ y, encodeWith follow e.1 = .ok y → ∃ w, Decodes mode y w ∧ ReadsAs e.1 w)
    (ihv : ∀ e ∈ es, ∀ y, encodeWith follow e.2 = .ok y → ∃ w, Decodes mode y w ∧ ReadsAs e.2 w) :
    ∃ w, Decodes mode data w ∧ ReadsAs (.dict es) w := by
  have hash : ∀ w : Value, (Value.dict es).hashFault? = none → w.hashFault? = none := nofun
  rcases (encodeWith_dict hk).mp h with
    ⟨keys, ys, hkeys, ht, -, hys, rfl⟩ | ⟨zs, -, hzs, rfl⟩
  · obtain ⟨ws, hdec, hreads⟩ := forall₂_triple hys fun x hx y hy => by
      obtain ⟨e, he, rfl⟩ := List.mem_map.mp hx
      exact ihv e he y hy
    have hl : keys.length = ys.length := by
      have hfst := congrArg List.length hkeys
      rw [List.length_map, List.length_map] at hfst
      rw [← hys.length_eq, List.length_map, hfst]
    have hentries : List.Forall₂ EntryReadsAs es ((keys.map .str).zip ws) := by
      have hz := forall₂_zip hreads
      rw [hkeys] at hz
      refine forall₂_imp_mem hz fun e he f hf => ⟨?_, hf.2⟩
      have hm : e.1 ∈ keys.map Value.str := hkeys ▸ List.mem_map_of_mem he
      obtain ⟨s, -, hs⟩ := List.mem_map.mp hm
      rw [hf.1, ← hs]
      exact readsAs_self ((everywhere_atom (.str s)).mpr ⟨nofun, nofun⟩)
    refine ⟨_, decodes_members hl ht hdec, readable_dict.mpr ⟨?_, ?_⟩, hash _, fun hr => ?_⟩
    · exact forall_right hentries fun e _ f hf => hf.1.readable
    · exact forall_right hentries fun e _ f hf => hf.2.readable
    · exact .of_dict (same_entries hentries hr).1
  · obtain ⟨fs, hdec, hentries⟩ : ∃ fs, Pairs (Decodes mode) zs fs ∧ List.Forall₂ EntryReadsAs es fs := by
      refine forall₂_triple hzs fun e he z ⟨a, b, ha, hb, hz⟩ => ?_
      obtain ⟨k, hk, hrk⟩ := ihk e he a ha
      obtain ⟨v, hv, hrv⟩ := ihv e he b hb
      exact ⟨(k, v), ⟨a, b, hz, hk, hv⟩, hrk, hrv⟩
    have hhash : ∀ f ∈ fs, f.1.hashFault? = none :=
      forall_right hentries fun e he f hf => hf.1.hash (hh e he)
    have hkr : ∀ x ∈ fs.map Prod.fst, x.Readable :=
      List.forall_mem_map.mpr (forall_right hentries fun e _ f hf => hf.1.readable)
    have hvr : ∀ x ∈ fs.map Prod.snd, x.Readable :=
      List.forall_mem_map.mpr (forall_right hentries fun e _ f hf => hf.2.readable)
    refine ⟨_, decodes_entries hdec hhash, readable_dict.mpr ⟨?_, ?_⟩, hash _, fun hr => ?_⟩
    · exact fun f hf => hkr _ ((mem_gatherEntries hf).1.resolve_left (by simp))
    · exact fun f hf => hvr _ ((mem_gatherEntries hf).2.resolve_left (by simp))
    · obtain ⟨hsame, hkeys⟩ := same_entries hentries hr
      have hkeyed : ∀ k ∈ es.map Prod.fst, k.Hashed :=
        List.forall_mem_map.mpr fun e he => (hk e he).hashed (hh e he)
      have hdist := hd.of_same hkeyed hkeys
      rw [gatherEntries_distinct (by simpa using hdist), List.nil_append]
      exact .of_dict hsame

/-- The data of a value are read back, as the value where its times allow it. -/
theorem exists_decoded {v : Value} (hv : Basic v) {data : Json}
    (h : encodeWith follow v = .ok data) : ∃ w, Decodes mode data w ∧ ReadsAs v w := by
  induction hv generalizing data with
  | atom hv => exact exists_decoded_atom hv h
  | @duration d hd =>
    rw [encodeWith] at h
    cases h
    exact ⟨_, decodes_duration hd, readsAs_self ((everywhere_of_parts_eq_nil rfl).mpr ⟨nofun, nofun⟩)⟩
  | @list xs _ ih =>
    obtain ⟨ys, hys, rfl⟩ := encodeWith_list.mp h
    obtain ⟨ws, hdec, hreads⟩ := forall₂_triple hys fun x hx y hy => ih x hx hy
    refine ⟨_, decodes_list hdec, ?_, fun h => ?_, fun hr => ?_⟩
    · exact (readable_iff (by simp) (by simp)).mpr (forall_right hreads fun _ _ _ h => h.readable)
    · cases h
    · exact .of_list (same_items hreads ((readable_iff (by simp) (by simp)).mp hr))
  | @tuple xs _ ih =>
    obtain ⟨ys, hys, rfl⟩ := encodeWith_tuple.mp h
    obtain ⟨ws, hdec, hreads⟩ := forall₂_triple hys fun x hx y hy => ih x hx hy
    refine ⟨_, decodes_tuple hdec, ?_, fun h => ?_, fun hr => ?_⟩
    · exact (readable_iff (by simp) (by simp)).mpr (forall_right hreads fun _ _ _ h => h.readable)
    · rw [Value.hashFault?, Value.hashFaultIn?_eq_none] at h ⊢
      exact forall_right hreads fun x hx _ hr => hr.hash (h x hx)
    · exact .of_tuple (same_items hreads ((readable_iff (by simp) (by simp)).mp hr))
  | @set xs hx hh hd ih =>
    obtain ⟨zs, us, rfl, hdec, hus, hsame⟩ :=
      exists_decoded_elements hx hh hd (encodeWith_set.mp h) fun x hx y hy => ih x hx hy
    refine ⟨_, decodes_set hdec fun u hu => (hus u hu).1, ?_, fun h => ?_, fun hr => ?_⟩
    · refine (readable_iff (by simp) (by simp)).mpr fun u hu => (hus u ?_).2
      exact (mem_gather hu).resolve_left (by simp)
    · cases h
    · obtain ⟨ws, hws, hp, hg⟩ := hsame ((readable_iff (by simp) (by simp)).mp hr)
      rw [hg]
      exact .of_set hws hp
  | @frozenset xs hx hh hd ih =>
    obtain ⟨zs, us, rfl, hdec, hus, hsame⟩ :=
      exists_decoded_elements hx hh hd (encodeWith_frozenset.mp h) fun x hx y hy => ih x hx hy
    refine ⟨_, decodes_frozenset hdec fun u hu => (hus u hu).1, ?_, fun _ => rfl, fun hr => ?_⟩
    · refine (readable_iff (by simp) (by simp)).mpr fun u hu => (hus u ?_).2
      exact (mem_gather hu).resolve_left (by simp)
    · obtain ⟨ws, hws, hp, hg⟩ := hsame ((readable_iff (by simp) (by simp)).mp hr)
      rw [hg]
      exact .of_frozenset hws hp
  | @dict es hk hh hd hv ihk ihv =>
    exact exists_decoded_dict hk hh hd h (fun e he y hy => ihk e he hy) fun e he y hy => ihv e he hy

/-- Where the offsets of its times are read back and the integers in its sets have texts, a value
comes back as it was. -/
lemma exists_decoded_same (mode : Mode) (heap : Heap) {v : Value} (hv : Basic v) (hr : v.Readable)
    (hs : v.Sortable) : ∃ data w, encode heap v = .ok data ∧ Decodes mode data w ∧ Same v w := by
  rw [encode]
  obtain ⟨data, h⟩ := (exists_data_iff hv).mpr hs
  obtain ⟨w, hw, hreads⟩ := exists_decoded hv h
  exact ⟨data, w, h, hw, hreads.same hr⟩

/-- A plain value comes back from its data, in either mode, exactly where the offsets of its times
are read back and the integers in its sets have texts. -/
theorem round_trip_iff (mode : Mode) (heap : Heap) {v : Value} (hv : Plain v) :
    (∃ data w, encode heap v = .ok data ∧ decode mode data = pure w ∧ Same v w) ↔
      v.Readable ∧ v.Sortable := by
  rw [encode]
  constructor
  · rintro ⟨data, w, h, hw, hs⟩
    refine ⟨?_, (exists_data_iff hv.basic).mp ⟨data, h⟩⟩
    obtain ⟨w', hw', hr⟩ := (exists_decoded hv.basic h : ∃ w', Decodes mode data w' ∧ ReadsAs v w')
    obtain rfl : w' = w := by
      have hstart := congrArg (fun c => (Noting.start c).1) (hw'.decode.symm.trans hw)
      exact Except.ok.inj hstart
    exact hs.readable hr.readable
  · rintro ⟨hr, hs⟩
    obtain ⟨data, w, h, hw, hsame⟩ := exists_decoded_same mode heap hv.basic hr hs
    exact ⟨data, w, h, hw.decode, hsame⟩

/-- A date and time an hour ahead comes back; one that is ahead by a microsecond does not. -/
theorem round_trip_offsets :
    (∃ data w, encode [] (.datetime ⟨⟨2024, 1, 2⟩, ⟨3, 4, 5, 0, some 3600000000⟩⟩) = .ok data ∧
      decode none data = pure w ∧
      Same (.datetime ⟨⟨2024, 1, 2⟩, ⟨3, 4, 5, 0, some 3600000000⟩⟩) w) ∧
    ¬ ∃ data w, encode [] (.datetime ⟨⟨2024, 1, 2⟩, ⟨3, 4, 5, 0, some 1⟩⟩) = .ok data ∧
      decode none data = pure w ∧ Same (.datetime ⟨⟨2024, 1, 2⟩, ⟨3, 4, 5, 0, some 1⟩⟩) w := by
  have valid : ∀ o : ℤ, o.natAbs < offsetLimit →
      Atom (.datetime ⟨⟨2024, 1, 2⟩, ⟨3, 4, 5, 0, some o⟩⟩) := by
    intro o ho
    have hd : Date.Valid ⟨2024, 1, 2⟩ := by
      unfold Date.Valid
      decide
    exact .datetime ⟨hd, by norm_num, by norm_num, by norm_num, by norm_num, by simpa using ho⟩
  constructor
  · have hv := valid 3600000000 (by decide)
    refine (round_trip_iff none [] (.atom hv)).mpr ⟨?_, ?_⟩
    · exact (everywhere_atom hv).mpr ⟨nofun, by rintro _ ⟨⟩; simp [ClockTime.Readable]⟩
    · exact (everywhere_atom hv).mpr (by rintro xs (h | h) <;> cases h)
  · have hv := valid 1 (by decide)
    rw [round_trip_iff none [] (.atom hv)]
    rintro ⟨hr, -⟩
    have := ((everywhere_atom hv).mp hr).2 _ rfl
    simp [ClockTime.Readable] at this

end Codec

end CallSnapshot
