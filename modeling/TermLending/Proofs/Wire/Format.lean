import Mathlib.Algebra.Ring.Nat
import TermLending.Arith.Checked
import TermLending.Wire.Format

/-!
# What formats promise

A format carries a value when the value can be read back from the front of whatever it was written before, and when
bytes that break off inside it are too short to read. Formats that are put together from smaller ones carry the values
whose parts the smaller ones carry.
-/

namespace TermLending.Wire

/-! ### Numbers as bytes -/

variable {width n : Nat}

theorem ofBigEndian_concat (bytes : List UInt8) (b : UInt8) :
    ofBigEndian (bytes ++ [b]) = ofBigEndian bytes * 256 + b.toNat := by
  simp [ofBigEndian]

theorem ofBigEndian_bigEndian (fits : n < 256 ^ width) : ofBigEndian (bigEndian width n) = n := by
  induction width generalizing n with
  | zero =>
    have zero : n = 0 := by simpa using fits
    rw [zero]
    rfl
  | succ width ih =>
    have front : n / 256 < 256 ^ width := Nat.div_lt_of_lt_mul (by rwa [Nat.pow_succ, Nat.mul_comm] at fits)
    rw [bigEndian, ofBigEndian_concat, ih front]
    show n / 256 * 256 + n % 256 = n
    omega

theorem lt_pow_byteWidth (n : Nat) : n < 256 ^ byteWidth n := by
  unfold byteWidth
  split
  · next zero =>
    rw [zero]
    decide
  · calc n < 2 ^ (n.log2 + 1) := Nat.lt_log2_self
      _ ≤ 2 ^ (8 * (n.log2 / 8 + 1)) := Nat.pow_le_pow_right (by decide) (by omega)
      _ = 256 ^ (n.log2 / 8 + 1) := Nat.pow_mul 2 8 _

theorem ofBigEndian_minimal (n : Nat) : ofBigEndian (minimal n) = n := ofBigEndian_bigEndian (lt_pow_byteWidth n)

theorem length_minimal (n : Nat) : (minimal n).length = byteWidth n := length_bigEndian _ n

namespace Format

variable {α β : Type} {f : Format α} {g : Format β} {a a' : α} {b : β} {bytes rest more : List UInt8}

structure Carries (f : Format α) (a : α) : Prop where
  read_back : ∀ rest, f.read (f.write a ++ rest) = .ok (a, rest)
  cut_short : ∀ bytes more, more ≠ [] → bytes ++ more = f.write a → f.read bytes = .error .tooShort

/-! ### Reading a value that takes up all bytes -/

theorem decode_of_read (h : f.read bytes = .ok (a, rest)) :
    f.decode bytes = if rest.isEmpty then .ok a else .error .tooLong := by
  unfold decode
  rw [h]
  rfl

theorem Carries.decode_write (h : f.Carries a) : f.decode (f.write a) = .ok a := by
  have read := h.read_back []
  rw [List.append_nil] at read
  exact decode_of_read read

theorem Carries.decode_cut (h : f.Carries a) (missing : more ≠ []) (cut : bytes ++ more = f.write a) :
    f.decode bytes = .error .tooShort := by
  unfold decode
  rw [h.cut_short bytes more missing cut]
  rfl

theorem Carries.decode_extended (h : f.Carries a) (extra : more ≠ []) :
    f.decode (f.write a ++ more) = .error .tooLong := by
  rw [decode_of_read (h.read_back more), if_neg (by simpa using extra)]

/-- No value is written at the front of another one, so none is written like another one. -/
theorem Carries.eq_of_front (h : f.Carries a) (h' : f.Carries a') (front : f.write a <+: f.write a') : a = a' := by
  obtain ⟨rest, whole⟩ := front
  have read := h.read_back rest
  have read' := h'.read_back []
  rw [List.append_nil, ← whole, read] at read'
  exact congrArg Prod.fst (Except.ok.inj read')

/-! ### Bytes of a known number -/

theorem readBytes_append (length : bytes.length = n) (rest : List UInt8) :
    readBytes n (bytes ++ rest) = .ok (bytes, rest) := by
  subst length
  unfold readBytes
  rw [if_pos (by simp), List.take_left, List.drop_left]

theorem readBytes_short (short : bytes.length < n) : readBytes n bytes = .error .tooShort :=
  if_neg (Nat.not_le.2 short)

theorem length_lt_of_cut {whole : List UInt8} (missing : more ≠ []) (cut : bytes ++ more = whole) :
    bytes.length < whole.length := by
  have some : 0 < more.length := List.length_pos_iff.2 missing
  rw [← cut, List.length_append]
  omega

theorem fixed_carries (fits : n < 256 ^ width) : (fixed width).Carries n where
  read_back rest := by
    show (readBytes width (bigEndian width n ++ rest) >>= _) = _
    rw [readBytes_append (length_bigEndian width n)]
    show Except.ok (ofBigEndian (bigEndian width n), rest) = _
    rw [ofBigEndian_bigEndian fits]
  cut_short bytes more missing cut := by
    have short := length_lt_of_cut missing cut
    change _ < (bigEndian width n).length at short
    rw [length_bigEndian] at short
    show (readBytes width bytes >>= _) = _
    rw [readBytes_short short]
    rfl

theorem address_carries (a : Address) : address.Carries a where
  read_back rest := by
    show (readBytes 32 (a.bytes ++ rest) >>= _) = _
    rw [readBytes_append a.length_bytes]
    dsimp only [bind, Except.bind]
    rw [Address.ofBytes?_bytes]
    rfl
  cut_short bytes more missing cut := by
    have short := length_lt_of_cut missing cut
    change _ < a.bytes.length at short
    rw [a.length_bytes] at short
    show (readBytes 32 bytes >>= _) = _
    rw [readBytes_short short]
    rfl

/-! ### One part after another -/

/-- Bytes break off inside the first part, or after it. -/
theorem cut_append_cases {whole whole' : List UInt8} (missing : more ≠ []) (cut : bytes ++ more = whole ++ whole') :
    (∃ more', more' ≠ [] ∧ bytes ++ more' = whole) ∨ ∃ bytes', bytes = whole ++ bytes' ∧ bytes' ++ more = whole' := by
  rcases List.append_eq_append_iff.1 cut with ⟨left, front, rfl⟩ | ⟨left, rfl, rest⟩
  · cases left with
    | nil => exact .inr ⟨[], by simpa using front.symm, rfl⟩
    | cons head tail => exact .inl ⟨head :: tail, nofun, front.symm⟩
  · exact .inr ⟨left, rfl, rest.symm⟩

theorem bind_of_read {k : α × List UInt8 → Except ReadFault β} (h : f.read bytes = .ok (a, rest)) :
    (f.read bytes >>= k) = k (a, rest) := by
  rw [h]
  rfl

theorem bind_of_short {k : α × List UInt8 → Except ReadFault β} (h : f.read bytes = .error .tooShort) :
    (f.read bytes >>= k) = .error .tooShort := by
  rw [h]
  rfl

theorem pair_carries (first : f.Carries a) (second : g.Carries b) : (f.pair g).Carries (a, b) where
  read_back rest := by
    show (f.read (f.write a ++ g.write b ++ rest) >>= _) = _
    rw [List.append_assoc, bind_of_read (first.read_back _)]
    show (g.read (g.write b ++ rest) >>= _) = _
    rw [bind_of_read (second.read_back rest)]
    rfl
  cut_short bytes more missing cut := by
    show (f.read bytes >>= _) = _
    rcases cut_append_cases missing cut with ⟨more', missing', inside⟩ | ⟨bytes', rfl, after⟩
    · exact bind_of_short (first.cut_short bytes more' missing' inside)
    · rw [bind_of_read (first.read_back bytes')]
      exact bind_of_short (second.cut_short bytes' more missing after)

theorem via_carries {unpack : β → α} {pack : α → Option β} (h : f.Carries (unpack b))
    (packed : pack (unpack b) = some b) : (f.via unpack pack).Carries b where
  read_back rest := by
    show (f.read (f.write (unpack b) ++ rest) >>= _) = _
    rw [bind_of_read (h.read_back rest)]
    dsimp only
    rw [packed]
    rfl
  cut_short bytes more missing cut := bind_of_short (h.cut_short bytes more missing cut)

theorem blob_carries (fits : bytes.length < 256 ^ 4) : blob.Carries bytes where
  read_back rest := by
    show ((fixed 4).read ((fixed 4).write bytes.length ++ bytes ++ rest) >>= _) = _
    rw [List.append_assoc, bind_of_read ((fixed_carries fits).read_back _)]
    exact readBytes_append rfl rest
  cut_short front more missing cut := by
    show ((fixed 4).read front >>= _) = _
    rcases cut_append_cases missing cut with ⟨more', missing', inside⟩ | ⟨front', rfl, after⟩
    · exact bind_of_short ((fixed_carries fits).cut_short front more' missing' inside)
    · rw [bind_of_read ((fixed_carries fits).read_back front')]
      exact readBytes_short (length_lt_of_cut missing after)

theorem readMany_append {as : List α} (each : ∀ a ∈ as, f.Carries a) (rest : List UInt8) :
    f.readMany as.length (as.flatMap f.write ++ rest) = .ok (as, rest) := by
  induction as with
  | nil => rfl
  | cons a as ih =>
    have others := ih fun a' member => each a' (List.mem_cons_of_mem a member)
    show (f.read (f.write a ++ as.flatMap f.write ++ rest) >>= _) = _
    rw [List.append_assoc, bind_of_read ((each a List.mem_cons_self).read_back _)]
    dsimp only
    rw [others]
    rfl

theorem readMany_short {as : List α} (each : ∀ a ∈ as, f.Carries a) (missing : more ≠ [])
    (cut : bytes ++ more = as.flatMap f.write) : f.readMany as.length bytes = .error .tooShort := by
  induction as generalizing bytes with
  | nil => exact absurd (List.append_eq_nil_iff.1 cut).2 missing
  | cons a as ih =>
    have one := each a List.mem_cons_self
    show (f.read bytes >>= _) = _
    rcases cut_append_cases missing cut with ⟨more', missing', inside⟩ | ⟨bytes', rfl, after⟩
    · exact bind_of_short (one.cut_short bytes more' missing' inside)
    · rw [bind_of_read (one.read_back bytes')]
      dsimp only
      rw [ih (fun a' member => each a' (List.mem_cons_of_mem a member)) after]
      rfl

theorem many_carries {as : List α} (fits : as.length < 256 ^ 4) (each : ∀ a ∈ as, f.Carries a) :
    f.many.Carries as where
  read_back rest := by
    show ((fixed 4).read ((fixed 4).write as.length ++ as.flatMap f.write ++ rest) >>= _) = _
    rw [List.append_assoc, bind_of_read ((fixed_carries fits).read_back _)]
    exact readMany_append each rest
  cut_short bytes more missing cut := by
    show ((fixed 4).read bytes >>= _) = _
    rcases cut_append_cases missing cut with ⟨more', missing', inside⟩ | ⟨bytes', rfl, after⟩
    · exact bind_of_short ((fixed_carries fits).cut_short bytes more' missing' inside)
    · rw [bind_of_read ((fixed_carries fits).read_back bytes')]
      exact readMany_short each missing after

/-! ### Plain values -/

theorem u64_carries (fits : n ≤ maxU64) : u64.Carries n := fixed_carries (Nat.lt_succ_of_le fits)

theorem u8_carries (fits : n ≤ maxU8) : u8.Carries n := fixed_carries (Nat.lt_succ_of_le fits)

theorem natural_carries (fits : byteWidth n ≤ maxU32) : natural.Carries n := by
  refine via_carries (blob_carries ?_) ?_
  · rw [length_minimal]
    exact Nat.lt_succ_of_le fits
  · exact congrArg some (ofBigEndian_minimal n)

theorem flag_carries (b : Bool) : flag.Carries b := by
  refine via_carries (u8_carries ?_) ?_ <;> cases b <;> decide

theorem token_carries {t : Token} (fits : t.bytes.length ≤ maxU32) (own : t.bytes ≠ Token.nativeAlias) :
    token.Carries t :=
  via_carries (blob_carries (Nat.lt_succ_of_le fits)) (congrArg some (Token.ofBytes_of_ne own))

theorem phaseOfNumber_phaseNumber (p : Phase) : phaseOfNumber (phaseNumber p) = some p := by
  cases p <;> rfl

theorem phase_carries (p : Phase) : phase.Carries p := by
  refine via_carries (u8_carries ?_) (phaseOfNumber_phaseNumber p)
  cases p <;> decide

end Format

/-! ### A phase alone -/

theorem decodePhase_writePhase (p : Phase) : decodePhase (writePhase p) = .ok p := by
  cases p <;> rfl

end TermLending.Wire
