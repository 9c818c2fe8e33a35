import Mathlib.Data.Vector.Basic
import RwaAgents.Library.Borsh

/-!
# Codecs

A `Codec` writes the values of a type as bytes and reads a value off the front of
bytes.  The one law says that it reads exactly what it writes: the values that fit the
format, followed by any bytes.  So reading inverts writing and no value is written in
two ways.

`sigma` puts one codec behind another that may depend on the value read first.
`refine` reads a type through another.  The formats of Borsh are built from these two
and from `bytes`.
-/

universe u v

/-- How the values of a type are written and read. -/
structure Codec (α : Type u) where
  /-- The bytes of a value. -/
  encode : α → List UInt8
  /-- A value off the front of bytes, and what is left of them. -/
  decode : List UInt8 → Option (α × List UInt8)
  /-- The values the format can hold. -/
  Fits : α → Prop
  decode_eq_some : ∀ {bs a rest}, decode bs = some (a, rest) ↔ Fits a ∧ bs = encode a ++ rest

namespace Codec

variable {α : Type u} {β : Type v}

theorem decode_encode (c : Codec α) {a : α} (h : c.Fits a) (rest : List UInt8) :
    c.decode (c.encode a ++ rest) = some (a, rest) :=
  c.decode_eq_some.mpr ⟨h, rfl⟩

/-- What is read was written. -/
theorem encode_of_decode (c : Codec α) {bs rest : List UInt8} {a : α}
    (h : c.decode bs = some (a, rest)) : bs = c.encode a ++ rest :=
  (c.decode_eq_some.mp h).2

/-! ## Combinators -/

/-- A fixed number of bytes. -/
def bytes (n : ℕ) : Codec (Vector UInt8 n) where
  encode v := v.toList
  decode bs := if h : n ≤ bs.length then
    some (⟨(bs.take n).toArray, by simp [h]⟩, bs.drop n) else none
  Fits _ := True
  decode_eq_some {bs v rest} := by
    constructor
    · intro h
      split at h
      · cases h
        simp [Vector.toList]
      · cases h
    · rintro ⟨-, rfl⟩
      rw [dif_pos (by simp)]
      simp [Vector.toList]

/-- A value and behind it one whose format depends on it. -/
def sigma {F : α → Type v} (c : Codec α) (d : (a : α) → Codec (F a)) : Codec (Σ a, F a) where
  encode p := c.encode p.1 ++ (d p.1).encode p.2
  decode bs := (c.decode bs).bind fun r => ((d r.1).decode r.2).map fun q => (⟨r.1, q.1⟩, q.2)
  Fits p := c.Fits p.1 ∧ (d p.1).Fits p.2
  decode_eq_some {bs p rest} := by
    obtain ⟨a, b⟩ := p
    simp only [Option.bind_eq_some_iff, Option.map_eq_some_iff, Prod.exists, Prod.mk.injEq,
      c.decode_eq_some, (d _).decode_eq_some]
    constructor
    · rintro ⟨a', rest', ⟨ha, rfl⟩, b', rest'', ⟨hb, rfl⟩, heq, rfl⟩
      cases heq
      exact ⟨⟨ha, hb⟩, (List.append_assoc _ _ _).symm⟩
    · rintro ⟨⟨ha, hb⟩, rfl⟩
      exact ⟨a, _, ⟨ha, List.append_assoc _ _ _⟩, b, rest, ⟨hb, rfl⟩, rfl, rfl⟩

/-- Read a type through another, if `parse` undoes `print`. -/
def refine (c : Codec α) (parse : α → Option β) (print : β → α) (P : β → Prop)
    (hfits : ∀ b, P b → c.Fits (print b))
    (hparse : ∀ a b, c.Fits a → (parse a = some b ↔ P b ∧ print b = a)) : Codec β where
  encode b := c.encode (print b)
  decode bs := (c.decode bs).bind fun r => (parse r.1).map fun b => (b, r.2)
  Fits := P
  decode_eq_some {bs b rest} := by
    simp only [Option.bind_eq_some_iff, Option.map_eq_some_iff, Prod.exists, Prod.mk.injEq,
      c.decode_eq_some]
    constructor
    · rintro ⟨a, rest', ⟨ha, rfl⟩, b', hb, rfl, rfl⟩
      obtain ⟨hP, rfl⟩ := (hparse a b' ha).mp hb
      exact ⟨hP, rfl⟩
    · rintro ⟨hP, rfl⟩
      exact ⟨print b, rest, ⟨hfits b hP, rfl⟩, b, (hparse _ b (hfits b hP)).mpr ⟨hP, rfl⟩, rfl, rfl⟩

/-- Read a type through an equivalent one. -/
def iso (c : Codec α) (parse : α → β) (print : β → α) (hparse : ∀ a, print (parse a) = a)
    (hprint : ∀ b, parse (print b) = b) : Codec β :=
  c.refine (fun a => some (parse a)) print (fun b => c.Fits (print b)) (fun _ h => h) fun a b ha => by
    rw [Option.some.injEq]
    constructor
    · rintro rfl
      exact ⟨by rwa [hparse], hparse a⟩
    · rintro ⟨-, rfl⟩
      exact hprint b

/-- Two values in order. -/
def pair (c : Codec α) (d : Codec β) : Codec (α × β) :=
  (c.sigma fun _ => d).iso (fun p => (p.1, p.2)) (fun p => ⟨p.1, p.2⟩) (fun _ => rfl) fun _ => rfl

@[simp] theorem pair_encode (c : Codec α) (d : Codec β) (p : α × β) :
    (c.pair d).encode p = c.encode p.1 ++ d.encode p.2 := rfl

@[simp] theorem pair_fits {c : Codec α} {d : Codec β} {p : α × β} :
    (c.pair d).Fits p ↔ c.Fits p.1 ∧ d.Fits p.2 := Iff.rfl

@[simp] theorem iso_encode (c : Codec α) {parse : α → β} {print : β → α} {hparse hprint} (b : β) :
    (c.iso parse print hparse hprint).encode b = c.encode (print b) := rfl

@[simp] theorem iso_fits {c : Codec α} {parse : α → β} {print : β → α} {hparse hprint} {b : β} :
    (c.iso parse print hparse hprint).Fits b ↔ c.Fits (print b) := Iff.rfl

/-- Listed values, which have different bytes. -/
def table {n : ℕ} (write : α → Vector UInt8 n) (listed : List α)
    (hinj : ∀ a ∈ listed, ∀ b ∈ listed, write a = write b → a = b) : Codec α :=
  (bytes n).refine (fun v => listed.find? fun a => write a = v) write (· ∈ listed)
    (fun _ _ => trivial) fun v a _ => by
      constructor
      · intro h
        exact ⟨List.mem_of_find?_eq_some h, by simpa using List.find?_some h⟩
      · rintro ⟨ha, rfl⟩
        cases hfind : listed.find? fun b => write b = write a with
        | none => simpa using List.find?_eq_none.mp hfind a ha
        | some b =>
            have hb : write b = write a := by simpa using List.find?_some hfind
            rw [hinj b (List.mem_of_find?_eq_some hfind) a ha hb]

@[simp] theorem table_encode {n : ℕ} {write : α → Vector UInt8 n} {listed : List α} {hinj}
    (a : α) : (table write listed hinj).encode a = (write a).toList := rfl

@[simp] theorem table_fits {n : ℕ} {write : α → Vector UInt8 n} {listed : List α} {hinj} {a : α} :
    (table write listed hinj).Fits a ↔ a ∈ listed := Iff.rfl

/-! ## Numbers -/

/-- The number with these bytes, the lowest first. -/
def ofLittleEndian : List UInt8 → ℕ
  | [] => 0
  | b :: bs => b.toNat + 256 * ofLittleEndian bs

theorem ofLittleEndian_lt (bs : List UInt8) : ofLittleEndian bs < 256 ^ bs.length := by
  induction bs with
  | nil => simp [ofLittleEndian]
  | cons b bs ih =>
      have hb : b.toNat < 256 := b.toNat_lt
      rw [ofLittleEndian, List.length_cons, Nat.pow_succ]
      omega

theorem littleEndian_ofLittleEndian (bs : List UInt8) :
    Borsh.littleEndian bs.length (ofLittleEndian bs) = bs := by
  induction bs with
  | nil => rfl
  | cons b bs ih =>
      have hb : b.toNat < 256 := b.toNat_lt
      have hlow : UInt8.ofNat (b.toNat + 256 * ofLittleEndian bs) = b := by
        apply UInt8.toNat_inj.mp
        rw [UInt8.toNat_ofNat']
        omega
      have hhigh : (b.toNat + 256 * ofLittleEndian bs) / 256 = ofLittleEndian bs := by omega
      rw [List.length_cons, Borsh.littleEndian, ofLittleEndian, hlow, hhigh, ih]

theorem ofLittleEndian_littleEndian (width : ℕ) {n : ℕ} (h : n < 256 ^ width) :
    ofLittleEndian (Borsh.littleEndian width n) = n := by
  induction width generalizing n with
  | zero =>
      rw [Nat.pow_zero, Nat.lt_one_iff] at h
      rw [h]
      rfl
  | succ width ih =>
      rw [Nat.pow_succ, Nat.mul_comm] at h
      have hhigh : n / 256 < 256 ^ width := Nat.div_lt_of_lt_mul h
      rw [Borsh.littleEndian, ofLittleEndian, ih hhigh, UInt8.toNat_ofNat']
      omega

/-- A number of a fixed width. -/
def uint (width : ℕ) : Codec ℕ :=
  (bytes width).refine (fun v => some (ofLittleEndian v.toList))
    (fun n => ⟨(Borsh.littleEndian width n).toArray, by simp⟩) (· < 256 ^ width)
    (fun _ _ => trivial) fun v n _ => by
      obtain ⟨⟨bs⟩, rfl⟩ := v
      rw [Option.some.injEq]
      constructor
      · rintro rfl
        refine ⟨ofLittleEndian_lt bs, ?_⟩
        simp [Vector.toList, littleEndian_ofLittleEndian]
      · rintro ⟨hn, hv⟩
        have hbs : Borsh.littleEndian bs.length n = bs := by
          have hlist := congrArg Vector.toList hv
          simpa [Vector.toList] using hlist
        change ofLittleEndian bs = n
        rw [← hbs]
        exact ofLittleEndian_littleEndian _ hn

@[simp] theorem uint_encode (width n : ℕ) : (uint width).encode n = Borsh.littleEndian width n :=
  rfl

@[simp] theorem uint_fits {width n : ℕ} : (uint width).Fits n ↔ n < 256 ^ width := Iff.rfl

/-- A signed number of eight bytes. -/
def int64 : Codec ℤ :=
  (uint 8).refine (fun n => some (if n < 2 ^ 63 then (n : ℤ) else n - 2 ^ 64))
    (fun z => (z % 2 ^ 64).toNat) (fun z => -2 ^ 63 ≤ z ∧ z < 2 ^ 63)
    (fun z h => by rw [uint_fits]; omega) fun n z hn => by
      rw [uint_fits] at hn
      rw [Option.some.injEq]
      split <;> omega

@[simp] theorem int64_encode : int64.encode = Borsh.i64 := rfl

@[simp] theorem int64_fits {z : ℤ} : int64.Fits z ↔ -2 ^ 63 ≤ z ∧ z < 2 ^ 63 := Iff.rfl

/-! ## Enumerations, options and texts -/

/-- The variants of an enumeration by their number. -/
def enum {α : Type u} (ofIndex : ℕ → Option α) (index : α → ℕ) (hindex : ∀ a, index a < 256)
    (hofIndex : ∀ n a, ofIndex n = some a ↔ index a = n) : Codec α :=
  (uint 1).refine ofIndex index (fun _ => True) (fun a _ => hindex a) fun n a _ => by
    rw [hofIndex, true_and]

def bool : Codec Bool :=
  enum (fun n => if n = 0 then some false else if n = 1 then some true else none)
    (fun b => if b then 1 else 0) (by decide) fun n b => by
      cases b <;> grind

@[simp] theorem bool_encode (b : Bool) : bool.encode b = Borsh.bool b := by
  cases b <;> rfl

@[simp] theorem bool_fits (b : Bool) : bool.Fits b := trivial

/-- Nothing. -/
def unit : Codec PUnit.{u + 1} :=
  (bytes 0).iso (fun _ => PUnit.unit) (fun _ => ⟨#[], rfl⟩) (fun _ => Vector.eq_empty.symm)
    fun _ => rfl

/-- What is behind the tag of an option. -/
def optionPayload (c : Codec α) : (tag : Bool) → Codec (if tag then α else PUnit)
  | false => unit
  | true => c

def option (c : Codec α) : Codec (Option α) :=
  (bool.sigma c.optionPayload).iso
    (fun p => match p with
      | ⟨false, _⟩ => none
      | ⟨true, a⟩ => some a)
    (fun o => match o with
      | none => ⟨false, PUnit.unit⟩
      | some a => ⟨true, a⟩)
    (fun p => by obtain ⟨_ | _, a⟩ := p <;> rfl) fun o => by cases o <;> rfl

@[simp] theorem option_encode (c : Codec α) (o : Option α) :
    c.option.encode o = Borsh.option c.encode o := by
  cases o <;> rfl

@[simp] theorem option_fits {c : Codec α} {o : Option α} : c.option.Fits o ↔ ∀ a ∈ o, c.Fits a := by
  cases o with
  | none => exact ⟨fun _ _ h => (nomatch h), fun _ => ⟨trivial, trivial⟩⟩
  | some a => exact ⟨fun h b hb => by cases hb; exact h.2, fun h => ⟨trivial, h a rfl⟩⟩

/-- A text behind its length in bytes. -/
def string : Codec String :=
  ((uint 4).sigma bytes).refine (fun p => String.fromUTF8? ⟨p.2.toArray⟩)
    (fun s => ⟨s.utf8ByteSize, ⟨s.toUTF8.data, rfl⟩⟩) (·.utf8ByteSize < 256 ^ 4)
    (fun _ h => ⟨h, trivial⟩) fun p s hp => by
      obtain ⟨n, ⟨bs, rfl⟩⟩ := p
      rw [String.fromUTF8?]
      constructor
      · intro h
        split at h
        · cases h
          exact ⟨hp.1, rfl⟩
        · cases h
      · rintro ⟨-, h⟩
        obtain rfl : s.toUTF8.data = bs := congrArg (fun p => p.2.toArray) h
        exact dif_pos s.isValidUTF8

@[simp] theorem string_encode (s : String) : string.encode s = Borsh.string s := rfl

@[simp] theorem string_fits {s : String} : string.Fits s ↔ s.utf8ByteSize < 256 ^ 4 := Iff.rfl

/-! ## Writing over a buffer -/

/-- What was written over the start of a buffer is read off it, whatever is left there
from before. -/
theorem decode_write (c : Codec α) {a : α} (h : c.Fits a) {buffer buffer' : List UInt8}
    (hwrite : Borsh.write buffer (c.encode a) = some buffer') :
    ∃ rest, c.decode buffer' = some (a, rest) ∧ buffer'.length = buffer.length := by
  rw [Borsh.write] at hwrite
  split at hwrite
  next hlength =>
    cases hwrite
    refine ⟨_, c.decode_encode h _, ?_⟩
    rw [List.length_append, List.length_drop]
    omega
  next => cases hwrite

/-- Writing back what was read changes nothing. -/
theorem write_of_decode (c : Codec α) {a : α} {buffer rest : List UInt8}
    (h : c.decode buffer = some (a, rest)) : Borsh.write buffer (c.encode a) = some buffer := by
  rw [c.encode_of_decode h, Borsh.write, if_pos (by simp), List.drop_left]

end Codec
