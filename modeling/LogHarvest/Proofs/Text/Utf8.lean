import LogHarvest.Proofs.Success
import LogHarvest.Text.Utf8
import Mathlib.Tactic.SplitIfs

/-!
# Encoding and decoding

The bytes of a text without surrogates decode to the text, whether they are read at once or in
blocks that cut a code in two. A code that is cut off by the end of a block is a fault that more
bytes may mend, and it is the only fault that the bytes of a text can have.
-/

namespace LogHarvest

/-- A code that has an encoding: neither a surrogate nor a stray byte. -/
structure Code.IsScalar (c : Code) : Prop where
  lt : c.val < 0x110000
  notSurrogate : c.isSurrogate = false

instance : DecidablePred Code.IsScalar := fun c =>
  decidable_of_iff (c.val < 0x110000 ∧ c.isSurrogate = false)
    ⟨fun h => ⟨h.1, h.2⟩, fun h => ⟨h.lt, h.notSurrogate⟩⟩

/-- A text without stray bytes, as strict decoding gives it. -/
def Text.IsDecoded (t : Text) : Prop := ∀ c ∈ t, c.val < 0x110000

instance : DecidablePred Text.IsDecoded := fun t =>
  inferInstanceAs (Decidable (∀ c ∈ t, c.val < 0x110000))

namespace Text.Utf8

/-! ### Encoding -/

/-- The bytes of a text, surrogates or not. -/
def encoding (t : Text) : Bytes := t.flatMap encodeCode

@[simp] theorem encoding_nil : encoding [] = [] := rfl

@[simp] theorem encoding_cons (c : Code) (t : Text) :
    encoding (c :: t) = encodeCode c ++ encoding t := rfl

@[simp] theorem encoding_append (s t : Text) : encoding (s ++ t) = encoding s ++ encoding t :=
  List.flatMap_append

theorem encodeCode_ne_nil (c : Code) : encodeCode c ≠ [] := by
  unfold encodeCode
  dsimp only
  split_ifs <;> simp

theorem encodeFrom_eq_ok_iff {place : Nat} {t : Text} {bytes : Bytes} :
    encodeFrom place t = .ok bytes ↔
      (∀ c ∈ t, c.isSurrogate = false) ∧ bytes = encoding t := by
  induction t generalizing place bytes with
  | nil =>
      simp only [encodeFrom, List.not_mem_nil, false_implies, implies_true, true_and, encoding_nil,
        Except.ok.injEq]
      exact eq_comm
  | cons c t ih =>
      rw [encodeFrom]
      cases hc : c.isSurrogate with
      | true => simp [hc]
      | false =>
          simp only [Bool.false_eq_true, if_false, List.forall_mem_cons, hc, true_and,
            encoding_cons]
          rw [map_eq_ok_iff]
          constructor
          · rintro ⟨rest, hrest, rfl⟩
            obtain ⟨hall, rfl⟩ := ih.1 hrest
            exact ⟨hall, rfl⟩
          · rintro ⟨hall, rfl⟩
            exact ⟨encoding t, ih.2 ⟨hall, rfl⟩, rfl⟩

theorem encode_eq_ok_iff {t : Text} {bytes : Bytes} :
    encode t = .ok bytes ↔ (∀ c ∈ t, c.isSurrogate = false) ∧ bytes = encoding t :=
  encodeFrom_eq_ok_iff

/-! ### The front of some bytes -/

/-- A byte may follow a lead byte of a long form. -/
def Follows (lead b : UInt8) : Prop :=
  0x80 ≤ b.toNat ∧ b.toNat < 0xC0 ∧ (lead.toNat = 0xE0 → 0xA0 ≤ b.toNat) ∧
    (lead.toNat = 0xED → b.toNat < 0xA0) ∧ (lead.toNat = 0xF0 → 0x90 ≤ b.toNat) ∧
    (lead.toNat = 0xF4 → b.toNat < 0x90)

theorem secondBounds_iff {lead b : UInt8} :
    (b < (secondBounds lead).1 || b > (secondBounds lead).2) = false ↔ Follows lead b := by
  have hlead (n : UInt8) : lead = n ↔ lead.toNat = n.toNat := UInt8.toNat_inj.symm
  simp only [secondBounds, Follows, hlead, Bool.or_eq_false_iff, decide_eq_false_iff_not,
    UInt8.lt_iff_toNat_lt, gt_iff_lt, UInt8.reduceToNat]
  split_ifs <;> simp only [UInt8.reduceToNat] <;> omega

theorem isContinuation_iff {b : UInt8} :
    isContinuation b = true ↔ 0x80 ≤ b.toNat ∧ b.toNat < 0xC0 := by
  simp [isContinuation, UInt8.le_iff_toNat_le, UInt8.lt_iff_toNat_lt]

/-- The forms of an encoded code, by the number of their bytes. -/
inductive Form (c : Code) : Bytes → Prop where
  | one {b : UInt8} : b.toNat < 0x80 → c.val = b.toNat → Form c [b]
  | two {b b1 : UInt8} : 0xC2 ≤ b.toNat → b.toNat < 0xE0 → isContinuation b1 = true →
      c.val = (b.toNat - 0xC0) * 64 + payload b1 → Form c [b, b1]
  | three {b b1 b2 : UInt8} : 0xE0 ≤ b.toNat → b.toNat < 0xF0 → Follows b b1 →
      isContinuation b2 = true →
      c.val = (b.toNat - 0xE0) * 4096 + payload b1 * 64 + payload b2 → Form c [b, b1, b2]
  | four {b b1 b2 b3 : UInt8} : 0xF0 ≤ b.toNat → b.toNat ≤ 0xF4 → Follows b b1 →
      isContinuation b2 = true → isContinuation b3 = true →
      c.val = (b.toNat - 0xF0) * 262144 + payload b1 * 4096 + payload b2 * 64 + payload b3 →
      Form c [b, b1, b2, b3]

theorem toNat_toUInt8 {n : Nat} (h : n < 256) : n.toUInt8.toNat = n := by
  simpa using Nat.mod_eq_of_lt h

theorem form_encodeCode {c : Code} (h : c.IsScalar) : Form c (encodeCode c) := by
  have hlt := h.lt
  have hsurrogate : ¬(0xD800 ≤ c.val ∧ c.val ≤ 0xDFFF) := by
    simpa [Code.isSurrogate] using h.notSurrogate
  rw [encodeCode]
  generalize hn : c.val = n at hlt hsurrogate
  split_ifs with h1 h2 h3
  · have hb := toNat_toUInt8 (n := n) (by omega)
    exact .one (by omega) (by omega)
  · have hb := toNat_toUInt8 (n := 0xC0 + n / 64) (by omega)
    have hb1 := toNat_toUInt8 (n := 0x80 + n % 64) (by omega)
    exact .two (by omega) (by omega) (isContinuation_iff.2 (by omega))
      (by unfold payload; omega)
  · have hb := toNat_toUInt8 (n := 0xE0 + n / 4096) (by omega)
    have hb1 := toNat_toUInt8 (n := 0x80 + n / 64 % 64) (by omega)
    have hb2 := toNat_toUInt8 (n := 0x80 + n % 64) (by omega)
    exact .three (by omega) (by omega) (by unfold Follows; omega)
      (isContinuation_iff.2 (by omega)) (by unfold payload; omega)
  · have hb := toNat_toUInt8 (n := 0xF0 + n / 262144) (by omega)
    have hb1 := toNat_toUInt8 (n := 0x80 + n / 4096 % 64) (by omega)
    have hb2 := toNat_toUInt8 (n := 0x80 + n / 64 % 64) (by omega)
    have hb3 := toNat_toUInt8 (n := 0x80 + n % 64) (by omega)
    exact .four (by omega) (by omega) (by unfold Follows; omega)
      (isContinuation_iff.2 (by omega)) (isContinuation_iff.2 (by omega))
      (by unfold payload; omega)

theorem not_lt_of_le_toNat {b n : UInt8} (h : n.toNat ≤ b.toNat) : ¬b < n :=
  UInt8.not_lt.2 (UInt8.le_iff_toNat_le.2 h)

/-- What the lead byte of a form of two bytes or more says. -/
theorem not_lt_of_lead {b : UInt8} (h : 0xC2 ≤ b.toNat) (h' : b.toNat ≤ 0xF4) :
    ¬b < 0x80 ∧ (b < 0xC2 || b > 0xF4) = false := by
  simp only [UInt8.lt_iff_toNat_lt, Bool.or_eq_false_iff, decide_eq_false_iff_not, gt_iff_lt,
    UInt8.reduceToNat]
  omega

theorem Form.front_append {c : Code} {bytes : Bytes} (h : Form c bytes) (rest : Bytes) :
    front (bytes ++ rest) = .code c bytes.length := by
  cases h with
  | @one b hb hn =>
      have hb : b < 0x80 := UInt8.lt_iff_toNat_lt.2 hb
      simp [front, hb, ← hn]
  | @two b b1 hb hb' h1 hn =>
      obtain ⟨hascii, hlead⟩ := not_lt_of_lead hb (by omega)
      have hshort : b < 0xE0 := UInt8.lt_iff_toNat_lt.2 hb'
      simp only [List.cons_append, List.nil_append, front, hascii, hlead, hshort, h1, if_true,
        if_false, Bool.false_eq_true, List.length_cons, List.length_nil]
      rw [← hn]
  | @three b b1 b2 hb hb' h1 h2 hn =>
      obtain ⟨hascii, hlead⟩ := not_lt_of_lead (b := b) (by omega) (by omega)
      have hlong : ¬b < 0xE0 := not_lt_of_le_toNat hb
      have hshort : b < 0xF0 := UInt8.lt_iff_toNat_lt.2 hb'
      simp only [List.cons_append, List.nil_append, front, hascii, hlead, hlong, hshort,
        secondBounds_iff.2 h1, h2, if_true, if_false, Bool.false_eq_true, Bool.not_true,
        List.length_cons, List.length_nil]
      rw [← hn]
  | @four b b1 b2 b3 hb hb' h1 h2 h3 hn =>
      obtain ⟨hascii, hlead⟩ := not_lt_of_lead (b := b) (by omega) hb'
      have hlong : ¬b < 0xE0 := not_lt_of_le_toNat (Nat.le_trans (by decide) hb)
      have hlonger : ¬b < 0xF0 := not_lt_of_le_toNat hb
      simp only [List.cons_append, List.nil_append, front, hascii, hlead, hlong, hlonger,
        secondBounds_iff.2 h1, h2, h3, if_true, if_false, Bool.false_eq_true, Bool.not_true,
        List.length_cons, List.length_nil]
      rw [← hn]

/-- What is there of an encoded code that is cut off is a fault that more bytes may mend. -/
theorem Form.front_take {c : Code} {bytes : Bytes} (h : Form c bytes) {k : Nat} (hk : 0 < k)
    (hk' : k < bytes.length) : ∃ length, front (bytes.take k) = .fault length .unexpectedEnd := by
  cases h with
  | one =>
      simp only [List.length_singleton] at hk'
      omega
  | @two b b1 hb hb' h1 =>
      obtain ⟨hascii, hlead⟩ := not_lt_of_lead hb (by omega)
      have hshort : b < 0xE0 := UInt8.lt_iff_toNat_lt.2 hb'
      obtain rfl : k = 1 := by simp only [List.length_cons, List.length_nil] at hk'; omega
      exact ⟨1, by simp [front, hascii, hlead, hshort]⟩
  | @three b b1 b2 hb hb' h1 h2 =>
      obtain ⟨hascii, hlead⟩ := not_lt_of_lead (b := b) (by omega) (by omega)
      have hlong : ¬b < 0xE0 := not_lt_of_le_toNat hb
      have hsecond := secondBounds_iff.2 h1
      obtain rfl | rfl : k = 1 ∨ k = 2 := by
        simp only [List.length_cons, List.length_nil] at hk'
        omega
      · exact ⟨1, by simp [front, hascii, hlead, hlong]⟩
      · exact ⟨2, by simp [front, hascii, hlead, hlong, hsecond]⟩
  | @four b b1 b2 b3 hb hb' h1 h2 h3 =>
      obtain ⟨hascii, hlead⟩ := not_lt_of_lead (b := b) (by omega) hb'
      have hlong : ¬b < 0xE0 := not_lt_of_le_toNat (Nat.le_trans (by decide) hb)
      have hlonger : ¬b < 0xF0 := not_lt_of_le_toNat hb
      have hsecond := secondBounds_iff.2 h1
      obtain rfl | rfl | rfl : k = 1 ∨ k = 2 ∨ k = 3 := by
        simp only [List.length_cons, List.length_nil] at hk'
        omega
      · exact ⟨1, by simp [front, hascii, hlead, hlong]⟩
      · exact ⟨2, by simp [front, hascii, hlead, hlong, hsecond]⟩
      · exact ⟨3, by simp [front, hascii, hlead, hlong, hlonger, hsecond, h2]⟩

/-- Every form is the encoding of a code that has one. -/
theorem Form.isScalar {c : Code} {bytes : Bytes} (h : Form c bytes) : c.IsScalar := by
  suffices hc : c.val < 0x110000 ∧ ¬(0xD800 ≤ c.val ∧ c.val ≤ 0xDFFF) from
    ⟨hc.1, by simpa [Code.isSurrogate] using hc.2⟩
  cases h with
  | one hb hn => omega
  | two hb hb' h1 hn =>
      rw [isContinuation_iff] at h1
      unfold payload at hn
      omega
  | three hb hb' h1 h2 hn =>
      rw [isContinuation_iff] at h2
      unfold Follows at h1
      unfold payload at hn
      omega
  | four hb hb' h1 h2 h3 hn =>
      rw [isContinuation_iff] at h2 h3
      unfold Follows at h1
      unfold payload at hn
      omega

/-- What is read as a code has one of the forms. -/
theorem exists_form_of_front {bytes : Bytes} {c : Code} {length : Nat}
    (h : front bytes = .code c length) : ∃ encoded, Form c encoded := by
  have hfollows {b b1 : UInt8} (h : ¬(b1.toNat < (secondBounds b).1.toNat ∨
      (secondBounds b).2.toNat < b1.toNat)) : Follows b b1 := by
    rw [← secondBounds_iff]
    simpa [UInt8.lt_iff_toNat_lt] using h
  unfold front at h
  split at h
  · simp at h
  · next b rest =>
    simp only [UInt8.lt_iff_toNat_lt, gt_iff_lt, Bool.or_eq_true, decide_eq_true_eq,
      UInt8.reduceToNat] at h
    split_ifs at h with hascii hlead hshort hlong
    · obtain ⟨rfl, -⟩ := Front.code.inj h
      exact ⟨_, .one hascii rfl⟩
    · split at h
      · simp at h
      · split_ifs at h with h1
        obtain ⟨rfl, -⟩ := Front.code.inj h
        exact ⟨_, .two (by omega) hshort h1 rfl⟩
    · split at h
      · simp at h
      · split_ifs at h with h1
        split at h
        · simp at h
        · split_ifs at h with h2
          obtain ⟨rfl, -⟩ := Front.code.inj h
          exact ⟨_, .three (by omega) hlong (hfollows h1) (by simpa using h2) rfl⟩
    · split at h
      · simp at h
      · split_ifs at h with h1
        split at h
        · simp at h
        · split_ifs at h with h2
          split at h
          · simp at h
          · split_ifs at h with h3
            obtain ⟨rfl, -⟩ := Front.code.inj h
            exact ⟨_, .four (by omega) (by omega) (hfollows h1) (by simpa using h2) h3 rfl⟩

/-! ### Texts -/

theorem scan_nil (fuel place : Nat) : scan fuel place [] = ([], none, []) := by
  cases fuel <;> rfl

/-- Reading the first bytes of an encoded text gives the codes that are there as a whole. What
is left of a code that is cut off stays, and is a fault that more bytes may mend. -/
theorem exists_scan_eq {t : Text} (ht : ∀ c ∈ t, c.IsScalar) {bytes missing : Bytes}
    (hbytes : encoding t = bytes ++ missing) {fuel : Nat} (hfuel : bytes.length ≤ fuel)
    (place : Nat) :
    ∃ before after tail stop, t = before ++ after ∧ encoding after = tail ++ missing ∧
      scan fuel place bytes = (before, stop, tail) ∧
      (stop = none ∧ tail = [] ∨
        missing ≠ [] ∧ ∃ e, stop = some e ∧ e.reason = .unexpectedEnd) := by
  induction t generalizing bytes fuel place with
  | nil =>
      obtain ⟨rfl, rfl⟩ := List.append_eq_nil_iff.1 hbytes.symm
      exact ⟨[], [], [], none, rfl, rfl, scan_nil fuel place, .inl ⟨rfl, rfl⟩⟩
  | cons c t ih =>
      obtain ⟨hc, ht⟩ := List.forall_mem_cons.1 ht
      by_cases hwhole : ∃ others, bytes = encodeCode c ++ others ∧ encoding t = others ++ missing
      · obtain ⟨others, rfl, hothers⟩ := hwhole
        have hpos := List.length_pos_iff.2 (encodeCode_ne_nil c)
        rw [List.length_append] at hfuel
        obtain ⟨fuel, rfl⟩ : ∃ n, fuel = n + 1 := ⟨fuel - 1, by omega⟩
        have hlength : others.length ≤ fuel := by omega
        obtain ⟨before, after, tail, stop, rfl, hafter, hscan, hstop⟩ :=
          ih ht hothers hlength (place + (encodeCode c).length)
        refine ⟨c :: before, after, tail, stop, rfl, hafter, ?_, hstop⟩
        simp only [scan, (form_encodeCode hc).front_append, List.drop_left, hscan]
      · -- The bytes end before the first code does.
        by_cases hne : bytes = []
        · subst hne
          exact ⟨[], c :: t, [], none, rfl, hbytes, scan_nil fuel place, .inl ⟨rfl, rfl⟩⟩
        have hcut : bytes = (encodeCode c).take bytes.length ∧
            bytes.length < (encodeCode c).length ∧ missing ≠ [] := by
          rw [encoding_cons, List.append_eq_append_iff] at hbytes
          obtain ⟨others, hothers, ht'⟩ | ⟨others, hc', hmissing⟩ := hbytes
          · exact absurd ⟨others, hothers, ht'⟩ hwhole
          · have hothers : others ≠ [] := by
              rintro rfl
              exact hwhole ⟨[], by simpa using hc'.symm, by simpa using hmissing.symm⟩
            have hpos := List.length_pos_iff.2 hothers
            rw [hc', hmissing]
            exact ⟨by simp, by simp [hpos], by simp [hothers]⟩
        obtain ⟨htake, hlt, hmissing⟩ := hcut
        have hpos := List.length_pos_iff.2 hne
        obtain ⟨length, hfront⟩ := (form_encodeCode hc).front_take hpos hlt
        rw [← htake] at hfront
        obtain ⟨fuel, rfl⟩ : ∃ n, fuel = n + 1 := ⟨fuel - 1, by omega⟩
        refine ⟨[], c :: t, bytes, some ⟨place, length, bytes.headD 0, .unexpectedEnd⟩, rfl,
          hbytes, ?_, .inr ⟨hmissing, _, rfl, rfl⟩⟩
        simp only [scan, hfront]

theorem eq_nil_of_encoding_eq_nil {t : Text} (h : encoding t = []) : t = [] := by
  cases t with
  | nil => rfl
  | cons c t => simp [encodeCode_ne_nil] at h

theorem decode_encoding {t : Text} (ht : ∀ c ∈ t, c.IsScalar) : decode (encoding t) = .ok t := by
  obtain ⟨before, after, tail, stop, rfl, hafter, hscan, hstop⟩ :=
    exists_scan_eq ht (List.append_nil _).symm (Nat.le_refl (encoding t).length) 0
  obtain ⟨rfl, rfl⟩ | ⟨hmissing, -⟩ := hstop
  · obtain rfl := eq_nil_of_encoding_eq_nil hafter
    rw [decode, hscan, List.append_nil]
  · exact absurd rfl hmissing

/-- Reading in blocks gives the whole text, whatever was held back of the block before. -/
theorem decodeBlocks_eq (count : Nat) {t : Text} (ht : ∀ c ∈ t, c.IsScalar) {held bytes : Bytes}
    (hbytes : encoding t = held ++ bytes) (hcount : bytes.length ≤ count * blockSize) :
    decodeBlocks (count + 1) held bytes = (t, none) := by
  induction count generalizing t held bytes with
  | zero =>
      obtain rfl : bytes = [] := List.eq_nil_of_length_eq_zero (by omega)
      obtain ⟨before, after, tail, stop, rfl, hafter, hscan, hstop⟩ :=
        exists_scan_eq ht hbytes (Nat.le_refl held.length) 0
      obtain ⟨rfl, rfl⟩ | ⟨hmissing, -⟩ := hstop
      · obtain rfl := eq_nil_of_encoding_eq_nil hafter
        simp [decodeBlocks, hscan]
      · exact absurd rfl hmissing
  | succ count ih =>
      have hblock : encoding t = (held ++ bytes.take blockSize) ++ bytes.drop blockSize := by
        rw [List.append_assoc, List.take_append_drop, hbytes]
      obtain ⟨before, after, tail, stop, rfl, hafter, hscan, hstop⟩ :=
        exists_scan_eq ht hblock (Nat.le_refl _) 0
      have hrest := ih (fun c hc => ht c (List.mem_append_right before hc)) hafter
        (by rw [List.length_drop]; rw [Nat.add_mul] at hcount; omega)
      obtain ⟨rfl, rfl⟩ | ⟨hmissing, e, rfl, he⟩ := hstop
      · rw [decodeBlocks]
        simp only [hscan]
        split
        · next hlast =>
          rw [List.isEmpty_iff] at hlast
          subst hlast
          obtain rfl := eq_nil_of_encoding_eq_nil hafter
          simp
        · rw [hrest]
      · have hlast : bytes.isEmpty = false := by
          cases bytes with
          | nil => simp at hmissing
          | cons b bytes => rfl
        rw [decodeBlocks]
        simp only [hscan, he, hlast, Bool.not_false, and_self, if_true, hrest]

theorem decodeFile_encoding {t : Text} (ht : ∀ c ∈ t, c.IsScalar) :
    decodeFile (encoding t) = (t, none) := by
  refine decodeBlocks_eq _ ht rfl ?_
  have := Nat.div_add_mod (encoding t).length blockSize
  have := Nat.mod_lt (encoding t).length (show 0 < blockSize by decide)
  rw [Nat.add_mul, Nat.mul_comm]
  omega

theorem isScalar_of_mem_scan {fuel place : Nat} {bytes : Bytes} {c : Code}
    (h : c ∈ (scan fuel place bytes).1) : c.IsScalar := by
  induction fuel generalizing place bytes with
  | zero => simp [scan] at h
  | succ fuel ih =>
      rw [scan] at h
      split at h
      · simp at h
      · next d length hd =>
        obtain rfl | h := List.mem_cons.1 h
        · obtain ⟨_, hform⟩ := exists_form_of_front hd
          exact hform.isScalar
        · exact ih h
      · simp at h

/-- Of bytes with faults what is read without these can be encoded. -/
theorem isScalar_of_mem_decodeDropping {bytes : Bytes} {c : Code} (h : c ∈ decodeDropping bytes) :
    c.IsScalar := by
  rw [decodeDropping] at h
  generalize bytes.length = fuel at h
  induction fuel generalizing bytes with
  | zero => simp [decodeWith] at h
  | succ fuel ih =>
      rw [decodeWith] at h
      split at h
      · simp at h
      · next d length hd =>
        obtain rfl | h := List.mem_cons.1 h
        · obtain ⟨_, hform⟩ := exists_form_of_front hd
          exact hform.isScalar
        · exact ih h
      · exact ih h

theorem isScalar_of_mem_decode {bytes : Bytes} {t : Text} (h : decode bytes = .ok t) {c : Code}
    (hc : c ∈ t) : c.IsScalar := by
  rw [decode] at h
  split at h
  · next text tail hscan =>
    obtain rfl : text = t := by simpa using h
    exact isScalar_of_mem_scan (by rw [hscan]; exact hc)
  · simp at h

theorem isDecoded_of_decode {bytes : Bytes} {t : Text} (h : decode bytes = .ok t) :
    t.IsDecoded :=
  fun _ hc => (isScalar_of_mem_decode h hc).lt

theorem isScalar_of_mem_decodeBlocks {fuel : Nat} {held bytes : Bytes} {c : Code}
    (h : c ∈ (decodeBlocks fuel held bytes).1) : c.IsScalar := by
  induction fuel generalizing held bytes with
  | zero => simp [decodeBlocks] at h
  | succ fuel ih =>
      rw [decodeBlocks] at h
      dsimp only at h
      split at h
      · next text tail hscan =>
        have htext : ∀ c ∈ text, c.IsScalar :=
          fun c hc => isScalar_of_mem_scan (by rw [hscan]; exact hc)
        split at h
        · exact htext c h
        · exact (List.mem_append.1 h).elim (htext c) ih
      · next text e tail hscan =>
        have htext : ∀ c ∈ text, c.IsScalar :=
          fun c hc => isScalar_of_mem_scan (by rw [hscan]; exact hc)
        split at h
        · exact (List.mem_append.1 h).elim (htext c) ih
        · simp at h

/-- What is read from a file can be written to one. -/
theorem isScalar_of_mem_decodeFile {bytes : Bytes} {c : Code} (h : c ∈ (decodeFile bytes).1) :
    c.IsScalar :=
  isScalar_of_mem_decodeBlocks h

end Text.Utf8

end LogHarvest
