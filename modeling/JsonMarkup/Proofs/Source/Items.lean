import JsonMarkup.Source.Data
import Mathlib.Data.List.Forall2

/-!
# Items as data formats tell them apart

A data format hands over items of many kinds: integers of each size, with a sign or without, texts
that it lends and texts that it gives away. `Item.data` is what a document is read from, in which
kinds that mean the same are one.

**Theorem (`reading_items`).** An item is read as a document just if no value in it is of a kind
that documents do not have and every key is a text. The document has the shape of the item
(`Shape`). Otherwise the first of its offences is reported (`FirstOffence`), a key coming before
its value.
-/

namespace JsonMarkup

/-- How many bits an integer has. -/
inductive Width where
  | w8
  | w16
  | w32
  | w64
  | w128
deriving DecidableEq

def Width.bits : Width → Nat
  | .w8 => 8
  | .w16 => 16
  | .w32 => 32
  | .w64 => 64
  | .w128 => 128

/-- What a data format hands over. -/
inductive Item where
  | unit
  | none
  | some (item : Item)
  | newtype (item : Item)
  | boolean (value : Bool)
  | signed (width : Width) (value : BitVec width.bits)
  | unsigned (width : Width) (value : BitVec width.bits)
  | real (value : Real)
  | char (value : Char)
  /-- A text that is lent, or one that is handed over for good. -/
  | text (owned : Bool) (value : String)
  | bytes (value : ByteArray)
  | seq (items : List Item)
  | map (entries : List (Item × Item))

namespace Item

mutual

/-- What a document is read from. -/
def data : Item → Data
  | .unit => .unit
  | .none => .none
  | .some item => .some item.data
  | .newtype item => .wrapped item.data
  | .boolean b => .boolean b
  | .signed .w128 v => .wide "i128" v.toInt
  | .unsigned .w128 v => .wide "u128" v.toNat
  | .signed _ v => .integer v.toInt
  | .unsigned _ v => .integer v.toNat
  | .real x => .real x
  | .char c => .char c
  | .text _ s => .text s
  | .bytes b => .bytes b
  | .seq items => .seq (dataItems items)
  | .map entries => .map (dataEntries entries)

def dataItems : List Item → List Data
  | [] => []
  | item :: rest => item.data :: dataItems rest

def dataEntries : List (Item × Item) → List (Data × Data)
  | [] => []
  | (key, item) :: rest => (key.data, item.data) :: dataEntries rest

end

/-- The document that an item stands for. -/
def read (i : Item) : Except Data.Error Source := Source.ofData i.data

/-! ## Offences -/

/-- What an item is wanted for. -/
inductive Spot where
  | value
  | key

/-- An item that stands in another one, at a place: the numbers of the parts on the way down, where
key and value of the entry `k` of a map have the numbers `2 * k` and `2 * k + 1`. -/
inductive Stands : Item → List Nat → Spot → Item → Prop
  | here {i : Item} : Stands i [] .value i
  | inSome {i x : Item} {place : List Nat} {spot : Spot} (inner : Stands i place spot x) :
    Stands (.some i) (0 :: place) spot x
  | inNewtype {i x : Item} {place : List Nat} {spot : Spot} (inner : Stands i place spot x) :
    Stands (.newtype i) (0 :: place) spot x
  | inSeq {items : List Item} {k : Nat} {i x : Item} {place : List Nat} {spot : Spot}
    (found : items[k]? = Option.some i) (inner : Stands i place spot x) :
    Stands (.seq items) (k :: place) spot x
  | key {entries : List (Item × Item)} {k : Nat} {e : Item × Item}
    (found : entries[k]? = Option.some e) : Stands (.map entries) [2 * k] .key e.1
  | inMap {entries : List (Item × Item)} {k : Nat} {e : Item × Item} {x : Item} {place : List Nat}
    {spot : Spot} (found : entries[k]? = Option.some e) (inner : Stands e.2 place spot x) :
    Stands (.map entries) ((2 * k + 1) :: place) spot x

/-- Documents have no values of this kind. -/
def Barred : Item → Prop
  | .signed .w128 _ => True
  | .unsigned .w128 _ => True
  | .bytes _ => True
  | .newtype _ => True
  | _ => False

/-- The item is a text when it stands as a key. -/
inductive Names : Item → String → Prop
  | text {owned : Bool} {s : String} : Names (.text owned s) s
  | char {c : Char} : Names (.char c) c.toString
  | bytes {b : ByteArray} {s : String} (decoded : String.fromUTF8? b = Option.some s) :
    Names (.bytes b) s

/-- What is reported of an item that may not stand where it stands. -/
inductive Offends : Spot → Item → Data.Error → Prop
  | value {x : Item} (barred : x.Barred) : Offends .value x (.notDocument x.data)
  | key {x : Item} (nameless : ∀ s, ¬ x.Names s) (noBytes : ∀ b, x ≠ .bytes b) :
    Offends .key x (.notKey x.data)
  | bytes {b : ByteArray} (undecoded : String.fromUTF8? b = Option.none) :
    Offends .key (.bytes b) .keyNotText

/-- Nothing in the item offends. -/
def Clean (i : Item) : Prop := ∀ place spot x e, i.Stands place spot x → ¬ Offends spot x e

/-- The first place comes no later in a document than the second one. -/
def NoLater : List Nat → List Nat → Prop
  | [], _ => True
  | _ :: _, [] => False
  | j :: p, k :: q => j < k ∨ (j = k ∧ NoLater p q)

/-- The error is what is reported of the first item that offends. -/
def FirstOffence (i : Item) (e : Data.Error) : Prop :=
  ∃ place spot x, i.Stands place spot x ∧ Offends spot x e ∧
    ∀ place' spot' x' e', i.Stands place' spot' x' → Offends spot' x' e' → NoLater place place'

/-! ## Shape -/

/-- The document has the shape of the item. -/
inductive Shape : Item → Source → Prop
  | unit : Shape .unit (.ready .null)
  | none : Shape .none (.ready .null)
  | some {i : Item} {s : Source} (inner : Shape i s) : Shape (.some i) s
  | boolean {b : Bool} : Shape (.boolean b) (.ready (.boolean b))
  | signed {w : Width} {v : BitVec w.bits} :
    Shape (.signed w v) (.ready (.number (.integer v.toInt)))
  | unsigned {w : Width} {v : BitVec w.bits} :
    Shape (.unsigned w v) (.ready (.number (.integer v.toNat)))
  | finite {x : Double} : Shape (.real (.finite x)) (.ready (.number (.double x)))
  | infinite {negative : Bool} : Shape (.real (.infinite negative)) (.ready .null)
  | nan : Shape (.real .nan) (.ready .null)
  | char {c : Char} : Shape (.char c) (.text c.toString)
  | text {owned : Bool} {s : String} : Shape (.text owned s) (.text s)
  | seq {items : List Item} {sources : List Source} (each : List.Forall₂ Shape items sources) :
    Shape (.seq items) (.list sources)
  | map {entries : List (Item × Item)} {fields : List (String × Source)}
    (keys : List.Forall₂ Names (entries.map Prod.fst) (fields.map Prod.fst))
    (values : List.Forall₂ Shape (entries.map Prod.snd) (fields.map Prod.snd)) :
    Shape (.map entries) (.mapping fields)

/-! ## What offends in each kind of item -/

section

variable {i x : Item} {e : Data.Error} {place : List Nat} {spot : Spot} {items : List Item}
  {entries : List (Item × Item)}

/-- The item has no parts. -/
def Scalar : Item → Prop
  | .some _ => False
  | .newtype _ => False
  | .seq _ => False
  | .map _ => False
  | _ => True

theorem Stands.of_scalar (h : i.Stands place spot x) (scalar : i.Scalar) :
    spot = .value ∧ x = i := by
  cases h with
  | here => exact ⟨rfl, rfl⟩
  | _ => exact scalar.elim

theorem barred_of_offends (h : Offends .value x e) : x.Barred := by
  cases h
  assumption

theorem clean_of_scalar (scalar : i.Scalar) (allowed : ¬ i.Barred) : i.Clean := by
  intro place spot x e stands offends
  obtain ⟨rfl, rfl⟩ := stands.of_scalar scalar
  exact allowed (barred_of_offends offends)

/-- An item that is barred offends before anything in it does. -/
theorem firstOffence_of_barred (barred : i.Barred) : i.FirstOffence (.notDocument i.data) :=
  ⟨[], .value, i, .here, .value barred, fun _ _ _ _ _ _ => trivial⟩

theorem Clean.some (clean : i.Clean) : (Item.some i).Clean := by
  intro place spot x e stands offends
  cases stands with
  | here => exact barred_of_offends offends
  | inSome inner => exact clean _ _ _ _ inner offends

theorem noLater_refl : ∀ p : List Nat, NoLater p p
  | [] => trivial
  | _ :: p => .inr ⟨rfl, noLater_refl p⟩

theorem FirstOffence.some (first : i.FirstOffence e) : (Item.some i).FirstOffence e := by
  obtain ⟨place, spot, x, stands, offends, least⟩ := first
  refine ⟨0 :: place, spot, x, .inSome stands, offends, ?_⟩
  intro place' spot' x' e' stands' offends'
  cases stands' with
  | here => exact (barred_of_offends offends').elim
  | inSome inner => exact .inr ⟨rfl, least _ _ _ _ inner offends'⟩

theorem Clean.seq (clean : ∀ i ∈ items, i.Clean) : (Item.seq items).Clean := by
  intro place spot x e stands offends
  cases stands with
  | here => exact barred_of_offends offends
  | inSeq found inner => exact clean _ (List.mem_of_getElem? found) _ _ _ _ inner offends

/-- What stands in a list stands before one of its entries, is this entry, or stands behind it. -/
theorem getElem?_cases {α : Type} {before after : List α} {a b : α} {k : Nat}
    (found : (before ++ a :: after)[k]? = Option.some b) :
    b ∈ before ∨ (k = before.length ∧ b = a) ∨ before.length < k := by
  rcases Nat.lt_trichotomy k before.length with earlier | rfl | later
  · rw [List.getElem?_append_left earlier] at found
    exact .inl (List.mem_of_getElem? found)
  · rw [List.getElem?_append_right (Nat.le_refl _), Nat.sub_self, List.getElem?_cons_zero,
      Option.some_inj] at found
    exact .inr (.inl ⟨rfl, found.symm⟩)
  · exact .inr (.inr later)

theorem FirstOffence.seq {before after : List Item} (clean : ∀ x ∈ before, x.Clean)
    (first : i.FirstOffence e) : (Item.seq (before ++ i :: after)).FirstOffence e := by
  obtain ⟨place, spot, x, stands, offends, least⟩ := first
  have found : (before ++ i :: after)[before.length]? = Option.some i := by simp
  refine ⟨before.length :: place, spot, x, .inSeq found stands, offends, ?_⟩
  intro place' spot' x' e' stands' offends'
  cases stands' with
  | here => exact (barred_of_offends offends').elim
  | inSeq found' inner =>
    rcases getElem?_cases found' with earlier | ⟨rfl, rfl⟩ | later
    · exact absurd offends' (clean _ earlier _ _ _ _ inner)
    · exact .inr ⟨rfl, least _ _ _ _ inner offends'⟩
    · exact .inl later

/-! ## Keys -/

/-- The item could not be a text whatever its value were. -/
def Keyless : Item → Prop
  | .text _ _ => False
  | .char _ => False
  | .bytes _ => False
  | _ => True

theorem offends_of_keyless (keyless : x.Keyless) : Offends .key x (.notKey x.data) := by
  refine .key ?_ ?_
  · intro s names
    cases names <;> exact keyless
  · rintro b rfl
    exact keyless

theorem key_cases (x : Item) : (∃ s, x.data.key = .ok s ∧ x.Names s) ∨
    ∃ e, x.data.key = .error e ∧ Offends .key x e := by
  cases x with
  | text owned s => exact .inl ⟨s, rfl, .text⟩
  | char c => exact .inl ⟨_, rfl, .char⟩
  | bytes b =>
    rw [data, Data.key]
    cases decoded : String.fromUTF8? b with
    | some s => exact .inl ⟨s, rfl, .bytes decoded⟩
    | none => exact .inr ⟨_, rfl, .bytes decoded⟩
  | signed w v => cases w <;> exact .inr ⟨_, rfl, offends_of_keyless trivial⟩
  | unsigned w v => cases w <;> exact .inr ⟨_, rfl, offends_of_keyless trivial⟩
  | _ => exact .inr ⟨_, rfl, offends_of_keyless trivial⟩

theorem not_offends_of_names {s : String} (names : x.Names s) : ¬ Offends .key x e := by
  intro offends
  cases offends with
  | key nameless => exact nameless s names
  | bytes undecoded =>
    cases names with
    | bytes decoded =>
      rw [undecoded] at decoded
      cases decoded

/-- Neither the key of an entry offends nor anything in its value. -/
def CleanEntry (entry : Item × Item) : Prop := (∃ s, entry.1.Names s) ∧ entry.2.Clean

/-- The error is what is reported of the key, or of the first offence in the value. -/
def FirstInEntry (entry : Item × Item) (e : Data.Error) : Prop :=
  Offends .key entry.1 e ∨ ((∃ s, entry.1.Names s) ∧ entry.2.FirstOffence e)

/-- What offends in a map is the key of an entry or stands in its value. -/
theorem offence_in_entry (stands : (Item.map entries).Stands place spot x)
    (offends : Offends spot x e) : ∃ k entry, entries[k]? = Option.some entry ∧ ¬ CleanEntry entry ∧
      ((place = [2 * k] ∧ Offends .key entry.1 e) ∨
        ∃ rest, place = (2 * k + 1) :: rest ∧ entry.2.Stands rest spot x) := by
  cases stands with
  | here => exact (barred_of_offends offends).elim
  | @key _ k entry found =>
    refine ⟨k, entry, found, ?_, .inl ⟨rfl, offends⟩⟩
    rintro ⟨⟨s, names⟩, -⟩
    exact not_offends_of_names names offends
  | @inMap _ k entry _ rest _ found inner =>
    exact ⟨k, entry, found, fun clean => clean.2 _ _ _ _ inner offends, .inr ⟨rest, rfl, inner⟩⟩

theorem Clean.map (clean : ∀ entry ∈ entries, CleanEntry entry) : (Item.map entries).Clean := by
  intro place spot x e stands offends
  obtain ⟨k, entry, found, offending, -⟩ := offence_in_entry stands offends
  exact offending (clean _ (List.mem_of_getElem? found))

theorem FirstOffence.map {before after : List (Item × Item)} {entry : Item × Item}
    (clean : ∀ x ∈ before, CleanEntry x) (first : FirstInEntry entry e) :
    (Item.map (before ++ entry :: after)).FirstOffence e := by
  have found : (before ++ entry :: after)[before.length]? = Option.some entry := by simp
  rcases first with offends | ⟨⟨s, names⟩, place, spot, x, stands, offends, least⟩
  · refine ⟨_, _, _, .key found, offends, ?_⟩
    intro place' spot' x' e' stands' offends'
    obtain ⟨k, entry', found', offending, there⟩ := offence_in_entry stands' offends'
    rcases getElem?_cases found' with earlier | ⟨rfl, -⟩ | later
    · exact absurd (clean _ earlier) offending
    · rcases there with ⟨rfl, -⟩ | ⟨rest, rfl, -⟩
      · exact noLater_refl _
      · exact .inl (by omega)
    · rcases there with ⟨rfl, -⟩ | ⟨rest, rfl, -⟩ <;> exact .inl (by omega)
  · refine ⟨_, _, _, .inMap found stands, offends, ?_⟩
    intro place' spot' x' e' stands' offends'
    obtain ⟨k, entry', found', offending, there⟩ := offence_in_entry stands' offends'
    rcases getElem?_cases found' with earlier | ⟨rfl, rfl⟩ | later
    · exact absurd (clean _ earlier) offending
    · rcases there with ⟨-, keyOffends⟩ | ⟨rest, rfl, inner⟩
      · exact absurd keyOffends (not_offends_of_names names)
      · exact .inr ⟨rfl, least _ _ _ _ inner offends'⟩
    · rcases there with ⟨rfl, -⟩ | ⟨rest, rfl, -⟩ <;> exact .inl (by omega)

end

/-! ## Reading -/

mutual

/-- An item is read as a document of its shape, or its first offence is reported. -/
theorem read_cases : ∀ i : Item,
    (∃ s, i.read = .ok s ∧ Shape i s ∧ i.Clean) ∨ ∃ e, i.read = .error e ∧ i.FirstOffence e
  | .unit => .inl ⟨_, rfl, .unit, clean_of_scalar trivial id⟩
  | .none => .inl ⟨_, rfl, .none, clean_of_scalar trivial id⟩
  | .some i =>
    (read_cases i).imp (fun ⟨s, read, shape, clean⟩ => ⟨s, read, .some shape, clean.some⟩)
      fun ⟨e, read, first⟩ => ⟨e, read, first.some⟩
  | .newtype _ => .inr ⟨_, rfl, firstOffence_of_barred trivial⟩
  | .boolean _ => .inl ⟨_, rfl, .boolean, clean_of_scalar trivial id⟩
  | .signed .w128 _ => .inr ⟨_, rfl, firstOffence_of_barred trivial⟩
  | .signed .w8 _ | .signed .w16 _ | .signed .w32 _ | .signed .w64 _ =>
    .inl ⟨_, rfl, .signed, clean_of_scalar trivial id⟩
  | .unsigned .w128 _ => .inr ⟨_, rfl, firstOffence_of_barred trivial⟩
  | .unsigned .w8 _ | .unsigned .w16 _ | .unsigned .w32 _ | .unsigned .w64 _ =>
    .inl ⟨_, rfl, .unsigned, clean_of_scalar trivial id⟩
  | .real (.finite _) => .inl ⟨_, rfl, .finite, clean_of_scalar trivial id⟩
  | .real (.infinite _) => .inl ⟨_, rfl, .infinite, clean_of_scalar trivial id⟩
  | .real .nan => .inl ⟨_, rfl, .nan, clean_of_scalar trivial id⟩
  | .char _ => .inl ⟨_, rfl, .char, clean_of_scalar trivial id⟩
  | .text _ _ => .inl ⟨_, rfl, .text, clean_of_scalar trivial id⟩
  | .bytes _ => .inr ⟨_, rfl, firstOffence_of_barred trivial⟩
  | .seq items => by
    rw [read, data, Source.ofData]
    rcases readItems_cases items with ⟨sources, read, shapes, clean⟩ |
      ⟨e, before, i, after, read, rfl, clean, first⟩
    · rw [read]
      exact .inl ⟨_, rfl, .seq shapes, .seq clean⟩
    · rw [read]
      exact .inr ⟨e, rfl, .seq clean first⟩
  | .map entries => by
    rw [read, data, Source.ofData]
    rcases readEntries_cases entries with ⟨fields, read, keys, values, clean⟩ |
      ⟨e, before, entry, after, read, rfl, clean, first⟩
    · rw [read]
      exact .inl ⟨_, rfl, .map keys values, .map clean⟩
    · rw [read]
      exact .inr ⟨e, rfl, .map clean first⟩

theorem readItems_cases : ∀ items : List Item,
    (∃ sources, Source.ofDataItems (dataItems items) = .ok sources ∧
      List.Forall₂ Shape items sources ∧ ∀ i ∈ items, i.Clean) ∨
    ∃ e before i after, Source.ofDataItems (dataItems items) = .error e ∧
      items = before ++ i :: after ∧ (∀ x ∈ before, x.Clean) ∧ i.FirstOffence e
  | [] => .inl ⟨[], rfl, .nil, nofun⟩
  | i :: rest => by
    rw [dataItems, Source.ofDataItems]
    rcases read_cases i with ⟨s, read, shape, clean⟩ | ⟨e, read, first⟩
    · rw [Item.read] at read
      rw [read]
      dsimp only
      rcases readItems_cases rest with ⟨sources, readRest, shapes, others⟩ |
        ⟨e, before, x, after, readRest, rfl, others, first⟩
      · rw [readRest]
        exact .inl ⟨_, rfl, .cons shape shapes, List.forall_mem_cons.mpr ⟨clean, others⟩⟩
      · rw [readRest]
        exact .inr ⟨e, i :: before, x, after, rfl, rfl, List.forall_mem_cons.mpr ⟨clean, others⟩,
          first⟩
    · rw [Item.read] at read
      rw [read]
      exact .inr ⟨e, [], i, rest, rfl, rfl, nofun, first⟩

theorem readEntries_cases : ∀ entries : List (Item × Item),
    (∃ fields, Source.ofDataEntries (dataEntries entries) = .ok fields ∧
      List.Forall₂ Names (entries.map Prod.fst) (fields.map Prod.fst) ∧
      List.Forall₂ Shape (entries.map Prod.snd) (fields.map Prod.snd) ∧
      ∀ entry ∈ entries, CleanEntry entry) ∨
    ∃ e before entry after, Source.ofDataEntries (dataEntries entries) = .error e ∧
      entries = before ++ entry :: after ∧ (∀ x ∈ before, CleanEntry x) ∧ FirstInEntry entry e
  | [] => .inl ⟨[], rfl, .nil, .nil, nofun⟩
  | (key, i) :: rest => by
    rw [dataEntries, Source.ofDataEntries]
    rcases key_cases key with ⟨name, named, names⟩ | ⟨e, refused, offends⟩
    · rw [named]
      dsimp only
      rcases read_cases i with ⟨s, read, shape, clean⟩ | ⟨e, read, first⟩
      · rw [Item.read] at read
        rw [read]
        dsimp only
        have cleanEntry : CleanEntry (key, i) := ⟨⟨name, names⟩, clean⟩
        rcases readEntries_cases rest with ⟨fields, readRest, keys, values, others⟩ |
          ⟨e, before, entry, after, readRest, rfl, others, first⟩
        · rw [readRest]
          exact .inl ⟨_, rfl, .cons names keys, .cons shape values,
            List.forall_mem_cons.mpr ⟨cleanEntry, others⟩⟩
        · rw [readRest]
          exact .inr ⟨e, (key, i) :: before, entry, after, rfl, rfl,
            List.forall_mem_cons.mpr ⟨cleanEntry, others⟩, first⟩
      · rw [Item.read] at read
        rw [read]
        exact .inr ⟨e, [], (key, i), rest, rfl, rfl, nofun, .inr ⟨⟨name, names⟩, first⟩⟩
    · rw [refused]
      exact .inr ⟨e, [], (key, i), rest, rfl, rfl, nofun, .inl offends⟩

end

/-! ## The theorem -/

section

variable {i : Item} {e : Data.Error}

theorem not_clean_of_firstOffence (first : i.FirstOffence e) : ¬ i.Clean := by
  obtain ⟨place, spot, x, stands, offends, -⟩ := first
  exact fun clean => clean place spot x e stands offends

theorem read_eq_ok_iff : (∃ s, i.read = .ok s) ↔ i.Clean := by
  rcases read_cases i with ⟨s, read, -, clean⟩ | ⟨e, read, first⟩
  · exact iff_of_true ⟨s, read⟩ clean
  · refine iff_of_false ?_ (not_clean_of_firstOffence first)
    rintro ⟨s, accepted⟩
    rw [read] at accepted
    cases accepted

/-- What may stand where it stands: as a value what is not barred, as a key what names a text. -/
theorem clean_iff : i.Clean ↔ (∀ place x, i.Stands place .value x → ¬ x.Barred) ∧
    ∀ place x, i.Stands place .key x → ∃ s, x.Names s := by
  constructor
  · intro clean
    refine ⟨fun place x stands barred => clean _ _ _ _ stands (.value barred), ?_⟩
    intro place x stands
    rcases key_cases x with ⟨s, -, names⟩ | ⟨e, -, offends⟩
    · exact ⟨s, names⟩
    · exact absurd offends (clean _ _ _ _ stands)
  · rintro ⟨values, keys⟩ place spot x e stands offends
    cases spot with
    | value => exact values place x stands (barred_of_offends offends)
    | key =>
      obtain ⟨s, names⟩ := keys place x stands
      exact not_offends_of_names names offends

/-- Integers of all sizes that documents have are read as their numbers. -/
theorem read_signed {w : Width} (narrow : w ≠ .w128) (v : BitVec w.bits) :
    (Item.signed w v).read = .ok (.ready (.number (.integer v.toInt))) := by
  cases w with
  | w128 => exact absurd rfl narrow
  | _ => rfl

theorem read_unsigned {w : Width} (narrow : w ≠ .w128) (v : BitVec w.bits) :
    (Item.unsigned w v).read = .ok (.ready (.number (.integer v.toNat))) := by
  cases w with
  | w128 => exact absurd rfl narrow
  | _ => rfl

end

/-- **An item is read just if nothing in it offends**: as a document of its shape, or with a report
of its first offence. Whether an integer has a sign makes no difference to what is read. -/
theorem reading_items :
    (∀ i : Item,
      ((∃ s, i.read = .ok s) ↔ (∀ place x, i.Stands place .value x → ¬ x.Barred) ∧
        ∀ place x, i.Stands place .key x → ∃ s, x.Names s) ∧
      (∀ s, i.read = .ok s → Shape i s) ∧ ∀ e, i.read = .error e → i.FirstOffence e) ∧
    ∀ (w w' : Width) (v : BitVec w.bits) (v' : BitVec w'.bits), w ≠ .w128 → w' ≠ .w128 →
      v.toInt = v'.toNat → (Item.signed w v).read = (Item.unsigned w' v').read := by
  refine ⟨fun i => ⟨read_eq_ok_iff.trans clean_iff, ?_, ?_⟩, ?_⟩
  · intro s accepted
    rcases read_cases i with ⟨s', read, shape, -⟩ | ⟨e, read, -⟩
    · rw [read] at accepted
      cases accepted
      exact shape
    · rw [read] at accepted
      cases accepted
  · intro e refused
    rcases read_cases i with ⟨s, read, -⟩ | ⟨e', read, first⟩
    · rw [read] at refused
      cases refused
    · rw [read] at refused
      cases refused
      exact first
  · intro w w' v v' narrow narrow' same
    rw [read_signed narrow, read_unsigned narrow', same]

/-- A map with a key that comes twice. -/
def twice : Item :=
  .map [(.text false "k", .some (.signed .w8 5)), (.char 'k', .seq [.real .nan, .text true "v"])]

/-- A map with bytes in its first value, and with a second key that is no text. -/
def broken : Item :=
  .map [(.text false "k", .seq [.unit, .bytes ⟨#[107]⟩]), (.unit, .unsigned .w128 5)]

/-- Both entries of the key that comes twice are there, and of the three offences it is the one of
the bytes that is reported. -/
theorem reading_twice_and_broken :
    Shape twice (.mapping [("k", .ready (.number (.integer 5))),
      ("k", .list [.ready .null, .text "v"])]) ∧
    (∀ place x, twice.Stands place .key x → ∃ s, x.Names s) ∧
    (¬ ∃ s, broken.read = .ok s) ∧
    broken.FirstOffence (.notDocument (.bytes ⟨#[107]⟩)) ∧
    (Item.signed .w8 5).read = (Item.unsigned .w64 5).read := by
  have bytes : broken.Stands [1, 1] .value (.bytes ⟨#[107]⟩) :=
    .inMap (k := 0) rfl (.inSeq (k := 1) rfl .here)
  refine ⟨(reading_items.1 twice).2.1 _ rfl, ((reading_items.1 twice).1.mp ⟨_, rfl⟩).2, ?_,
    (reading_items.1 broken).2.2 _ rfl, reading_items.2 .w8 .w64 5 5 (by decide) (by decide) rfl⟩
  exact fun accepted => ((reading_items.1 broken).1.mp accepted).1 _ _ bytes trivial

end Item

end JsonMarkup
