import CalibratedSweep.Text.Bytes

namespace CalibratedSweep.Bytes

theorem toNat_ofNat_of_lt {n : Nat} (h : n < 256) : (UInt8.ofNat n).toNat = n := by
  simp; omega

theorem mem_utf8EncodeChar {c : Char} {b : UInt8} (hb : b ∈ String.utf8EncodeChar c)
    (h : b.toNat < 128) : c.toNat = b.toNat := by
  have key (n : Nat) (hn : n < 256) (he : b = UInt8.ofNat n) : b.toNat = n := by
    rw [he, toNat_ofNat_of_lt hn]
  have hv : c.val.toNat = c.toNat := rfl
  simp only [String.utf8EncodeChar, hv] at hb
  split at hb
  · rw [List.mem_singleton] at hb
    exact (key _ (by omega) hb).symm
  · -- every byte of a longer character is at least 128
    exfalso
    split at hb
    · simp only [List.mem_cons, List.not_mem_nil, or_false] at hb
      rcases hb with hb | hb <;> have := key _ (by omega) hb <;> omega
    · split at hb <;> simp only [List.mem_cons, List.not_mem_nil, or_false] at hb
      · rcases hb with hb | hb | hb <;> have := key _ (by omega) hb <;> omega
      · rcases hb with hb | hb | hb | hb <;> have := key _ (by omega) hb <;> omega

theorem ofText_ofList (s : List Char) : ofText (String.ofList s) = s.flatMap String.utf8EncodeChar := by
  simp [ofText, List.utf8Encode]

theorem mem_ofText {s : String} {b : UInt8} (hb : b ∈ ofText s) (h : b.toNat < 128) :
    ∃ c ∈ s.toList, c.toNat = b.toNat := by
  rw [← String.ofList_toList (s := s), ofText_ofList, List.mem_flatMap] at hb
  obtain ⟨c, hc, hb⟩ := hb
  exact ⟨c, hc, mem_utf8EncodeChar hb h⟩

theorem ofText_of_lt {s : String} (h : ∀ c ∈ s.toList, c.toNat < 128) :
    ofText s = s.toList.map fun c => UInt8.ofNat c.toNat := by
  have hchar {c : Char} (hc : c.toNat < 128) : String.utf8EncodeChar c = [UInt8.ofNat c.toNat] := by
    have hv : c.val.toNat = c.toNat := rfl
    rw [String.utf8EncodeChar, hv, if_pos (by omega)]
  rw [← String.ofList_toList (s := s), ofText_ofList, String.toList_ofList]
  generalize s.toList = chars at h
  induction chars with
  | nil => rfl
  | cons c chars ih =>
    rw [List.forall_mem_cons] at h
    rw [List.flatMap_cons, hchar h.1, ih h.2]
    rfl

theorem exists_ofText_of_prefix {s : String} (h : ∀ c ∈ s.toList, c.toNat < 128) {a : Bytes}
    (ha : a <+: ofText s) : ∃ t, ofText t = a := by
  rw [ofText_of_lt h] at ha
  obtain ⟨chars, hchars, rfl⟩ := List.prefix_map_iff.mp ha
  refine ⟨String.ofList chars, ?_⟩
  rw [ofText_of_lt, String.toList_ofList]
  rw [String.toList_ofList]
  exact fun c hc => h c (hchars.subset hc)

theorem ofText_injective {s t : String} (h : ofText s = ofText t) : s = t := by
  have hs := text?_ofText s
  rw [h, text?_ofText t] at hs
  exact (Option.some.inj hs).symm

theorem ofText_of_text? {b : Bytes} {s : String} (h : text? b = some s) : ofText s = b := by
  unfold text? String.fromUTF8? at h
  split at h
  · cases h
    simp [ofText, String.fromUTF8]
  · cases h

theorem mapM_text?_ofText (texts : List String) : (texts.map ofText).mapM text? = some texts := by
  induction texts with
  | nil => rfl
  | cons s texts ih => simp [List.mapM_cons, text?_ofText, ih]

theorem eq_map_ofText {fields : List Bytes} {texts : List String}
    (h : fields.mapM text? = some texts) : fields = texts.map ofText := by
  induction fields generalizing texts with
  | nil => cases h; rfl
  | cons f fields ih =>
    rw [List.mapM_cons] at h
    cases hf : text? f with
    | none => simp [hf] at h
    | some t =>
      cases hfs : fields.mapM text? with
      | none => simp [hf, hfs] at h
      | some ts =>
        simp only [hf, hfs] at h
        cases h
        rw [List.map_cons, ofText_of_text? hf, ← ih hfs]

end CalibratedSweep.Bytes
