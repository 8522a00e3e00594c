import CallManager.Types

/-!
# Message parcels

A parcel carries primitive values from a sender to a receiver. What a sender
writes goes to the end of the parcel, and what a receiver reads comes from its
front. The parcel itself is abstract: `MessageParcel` has its operations and
what is relied on, that a primitive at the front is what the read of its kind
returns.

A reader is a computation over the parcel. `Reads` says what it returns, and
which items of the parcel it takes.

Results:
* `Reads.bind`, `Reads.next`, `Reads.pure`: readers read one after the other.
* `Returns.bind`, `Returns.next`, `Returns.pure`: what readers return, whatever is in the
  parcel.
* `reads_getD`: the readers of the primitives.
* `reads_readMany`: a list, its values one after the other.
-/

namespace CallManager

/-- A primitive in a parcel. -/
inductive ParcelItem
  | interfaceToken (descriptor : String)
  | int32 (value : Int32)
  | int64 (value : Int64)
  | cString (value : ByteString)
  | string (value : ByteString)
  | bool (value : Bool)
  | uint8Vector (value : List UInt8)
  | int8 (value : Int8)
  | uint32 (value : UInt32)
  | float (bits : UInt32)
  | string16 (value : List UInt16)
  | rawData (bytes : List UInt8)
  | remoteObject (object : ℕ)
  | stringVector (value : List ByteString)
  | string16Vector (value : List (List UInt16))
  deriving DecidableEq, Repr

/-- A read takes an item of its kind off the front and returns its value. -/
def Takes {π α : Type} (contents : π → List ParcelItem) (read : π → Option α × π)
    (item : α → ParcelItem) : Prop :=
  ∀ p value rest, contents p = item value :: rest →
    (read p).1 = some value ∧ contents (read p).2 = rest

/-- The parcels of the platform, and what is relied on: a parcel has contents,
    `write` adds an item at the end, and each read takes items of its kind. -/
structure MessageParcel where
  Parcel : Type
  contents : Parcel → List ParcelItem
  empty : Parcel
  contents_empty : contents empty = []
  write : Parcel → ParcelItem → Parcel
  contents_write : ∀ p item, contents (write p item) = contents p ++ [item]
  readInterfaceToken : Parcel → Option String × Parcel
  takes_readInterfaceToken : Takes contents readInterfaceToken .interfaceToken
  readInt32 : Parcel → Option Int32 × Parcel
  takes_readInt32 : Takes contents readInt32 .int32
  readInt64 : Parcel → Option Int64 × Parcel
  takes_readInt64 : Takes contents readInt64 .int64
  readCString : Parcel → Option ByteString × Parcel
  takes_readCString : Takes contents readCString .cString
  readString : Parcel → Option ByteString × Parcel
  takes_readString : Takes contents readString .string
  readBool : Parcel → Option Bool × Parcel
  takes_readBool : Takes contents readBool .bool
  readUInt8Vector : Parcel → Option (List UInt8) × Parcel
  takes_readUInt8Vector : Takes contents readUInt8Vector .uint8Vector

/-- The parcels with further kinds of primitives. Raw data is read by its size, and
    there is no object in a parcel with nothing left. -/
structure FullMessageParcel extends MessageParcel where
  readInt8 : Parcel → Option Int8 × Parcel
  takes_readInt8 : Takes contents readInt8 .int8
  readUint32 : Parcel → Option UInt32 × Parcel
  takes_readUint32 : Takes contents readUint32 .uint32
  readFloat : Parcel → Option UInt32 × Parcel
  takes_readFloat : Takes contents readFloat .float
  readString16 : Parcel → Option (List UInt16) × Parcel
  takes_readString16 : Takes contents readString16 .string16
  readRawData : ℕ → Parcel → Option (List UInt8) × Parcel
  takes_readRawData : ∀ p bytes rest, contents p = .rawData bytes :: rest →
    (readRawData bytes.length p).1 = some bytes ∧ contents (readRawData bytes.length p).2 = rest
  readRemoteObject : Parcel → Option ℕ × Parcel
  takes_readRemoteObject : Takes contents readRemoteObject .remoteObject
  readRemoteObject_nil : ∀ p, contents p = [] →
    (readRemoteObject p).1 = none ∧ contents (readRemoteObject p).2 = []
  readStringVector : Parcel → Option (List ByteString) × Parcel
  takes_readStringVector : Takes contents readStringVector .stringVector
  readString16Vector : Parcel → Option (List (List UInt16)) × Parcel
  takes_readString16Vector : Takes contents readString16Vector .string16Vector

/-- The parcels in which there is no number and no text where nothing is left. -/
structure EndingMessageParcel extends FullMessageParcel where
  readInt32_nil : ∀ p, contents p = [] →
    (readInt32 p).1 = none ∧ contents (readInt32 p).2 = []
  readString_nil : ∀ p, contents p = [] →
    (readString p).1 = none ∧ contents (readString p).2 = []

namespace MessageParcel

variable {P : MessageParcel} {α β : Type}

/-- Write the items one after the other. -/
def writeAll (P : MessageParcel) (p : P.Parcel) (items : List ParcelItem) : P.Parcel :=
  items.foldl P.write p

theorem contents_writeAll (p : P.Parcel) (items : List ParcelItem) :
    P.contents (P.writeAll p items) = P.contents p ++ items := by
  induction items generalizing p with
  | nil => simp [writeAll]
  | cons item items ih =>
    have hrest := ih (P.write p item)
    rw [P.contents_write, List.append_assoc] at hrest
    exact hrest

/-! ## Readers -/

/-- A computation that reads from a parcel. -/
abbrev Reader (P : MessageParcel) (α : Type) := StateM P.Parcel α

/-- On a parcel that starts with the items, the reader takes them and returns the value. -/
def Reads (r : P.Reader α) (items : List ParcelItem) (value : α) : Prop :=
  ∀ p rest, P.contents p = items ++ rest → (r p).1 = value ∧ P.contents (r p).2 = rest

theorem Reads.pure (value : α) : Reads (P := P) (Pure.pure value) [] value :=
  fun _ _ h => ⟨rfl, h⟩

theorem Reads.bind {r : P.Reader α} {items : List ParcelItem} {value : α} (h : Reads r items value)
    {f : α → P.Reader β} {items' : List ParcelItem} {value' : β}
    (hf : Reads (f value) items' value') : Reads (r >>= f) (items ++ items') value' := by
  intro p rest hp
  obtain ⟨hv, hc⟩ := h p (items' ++ rest) (by rw [hp, List.append_assoc])
  have hrun : (r >>= f) p = f (r p).1 (r p).2 := rfl
  rw [hrun, hv]
  exact hf (r p).2 rest hc

theorem Reads.next {r : P.Reader α} {item : ParcelItem} {value : α} (h : Reads r [item] value)
    {f : α → P.Reader β} {items : List ParcelItem} {value' : β}
    (hf : Reads (f value) items value') : Reads (r >>= f) (item :: items) value' :=
  h.bind hf

/-- On a parcel that is the items, the reader takes them all and returns the value. -/
def ReadsAll (r : P.Reader α) (items : List ParcelItem) (value : α) : Prop :=
  ∀ p, P.contents p = items → (r p).1 = value ∧ P.contents (r p).2 = []

theorem Reads.all {r : P.Reader α} {items : List ParcelItem} {value : α} (h : Reads r items value) :
    ReadsAll r items value :=
  fun p hp => h p [] (by rw [hp, List.append_nil])

theorem ReadsAll.pure (value : α) : ReadsAll (P := P) (Pure.pure value) [] value :=
  (Reads.pure value).all

theorem ReadsAll.bind {r : P.Reader α} {items : List ParcelItem} {value : α}
    (h : ReadsAll r items value) {f : α → P.Reader β} {value' : β}
    (hf : ReadsAll (f value) [] value') : ReadsAll (r >>= f) items value' := by
  intro p hp
  obtain ⟨hv, hc⟩ := h p hp
  have hrun : (r >>= f) p = f (r p).1 (r p).2 := rfl
  rw [hrun, hv]
  exact hf (r p).2 hc

theorem ReadsAll.next {r : P.Reader α} {item : ParcelItem} {value : α} (h : Reads r [item] value)
    {f : α → P.Reader β} {items : List ParcelItem} {value' : β}
    (hf : ReadsAll (f value) items value') : ReadsAll (r >>= f) (item :: items) value' := by
  intro p hp
  obtain ⟨hv, hc⟩ := h p items hp
  have hrun : (r >>= f) p = f (r p).1 (r p).2 := rfl
  rw [hrun, hv]
  exact hf (r p).2 hc

/-- Whatever is in the parcel, what the reader returns has the property. -/
def Returns (r : P.Reader α) (Q : α → Prop) : Prop := ∀ p, Q (r p).1

theorem Returns.pure {Q : α → Prop} {value : α} (h : Q value) :
    Returns (P := P) (Pure.pure value) Q :=
  fun _ => h

theorem Returns.bind {r : P.Reader α} {A : α → Prop} (h : Returns r A) {f : α → P.Reader β}
    {Q : β → Prop} (hf : ∀ a, A a → Returns (f a) Q) : Returns (r >>= f) Q :=
  fun p => hf (r p).1 (h p) (r p).2

/-- After a reader of which nothing is known. -/
theorem Returns.next {r : P.Reader α} {f : α → P.Reader β} {Q : β → Prop}
    (hf : ∀ a, Returns (f a) Q) : Returns (r >>= f) Q :=
  fun p => hf (r p).1 (r p).2

/-- A read of one item, with what a failed read returns. -/
def getD (read : P.Parcel → Option α × P.Parcel) (default : α) : P.Reader α := fun p =>
  ((read p).1.getD default, (read p).2)

theorem reads_getD {read : P.Parcel → Option α × P.Parcel} {item : α → ParcelItem}
    (h : Takes P.contents read item) (default value : α) :
    Reads (getD read default) [item value] value := by
  intro p rest hp
  obtain ⟨hv, hc⟩ := h p value rest hp
  exact ⟨by simp [getD, hv], hc⟩

/-- `ReadInterfaceToken`. -/
def interfaceToken : P.Reader String := getD P.readInterfaceToken ""

/-- `ReadInt32`, zero if it fails. -/
def int32 : P.Reader Int32 := getD P.readInt32 0

/-- `ReadInt32` into a variable, which keeps its value if the read fails. -/
def int32Into (value : Int32) : P.Reader Int32 := getD P.readInt32 value

/-- `ReadInt64`, zero if it fails. -/
def int64 : P.Reader Int64 := getD P.readInt64 0

/-- `ReadCString`. -/
def chars : P.Reader ByteString := getD P.readCString []

/-- `ReadString`. -/
def string : P.Reader ByteString := getD P.readString []

/-- `ReadBool`. -/
def bool : P.Reader Bool := getD P.readBool false

/-- `ReadUInt8Vector` into an empty vector. -/
def uint8Vector : P.Reader (List UInt8) := getD P.readUInt8Vector []

theorem reads_interfaceToken (descriptor : String) :
    Reads (P := P) interfaceToken [.interfaceToken descriptor] descriptor :=
  reads_getD P.takes_readInterfaceToken _ _

theorem reads_int32 (value : Int32) : Reads (P := P) int32 [.int32 value] value :=
  reads_getD P.takes_readInt32 _ _

theorem reads_int32Into (value value' : Int32) :
    Reads (P := P) (int32Into value) [.int32 value'] value' :=
  reads_getD P.takes_readInt32 _ _

theorem reads_int64 (value : Int64) : Reads (P := P) int64 [.int64 value] value :=
  reads_getD P.takes_readInt64 _ _

theorem reads_chars (value : ByteString) : Reads (P := P) chars [.cString value] value :=
  reads_getD P.takes_readCString _ _

theorem reads_string (value : ByteString) : Reads (P := P) string [.string value] value :=
  reads_getD P.takes_readString _ _

theorem reads_bool (value : Bool) : Reads (P := P) bool [.bool value] value :=
  reads_getD P.takes_readBool _ _

theorem reads_uint8Vector (value : List UInt8) :
    Reads (P := P) uint8Vector [.uint8Vector value] value :=
  reads_getD P.takes_readUInt8Vector _ _

/-! ## One reader, many times -/

/-- Read `n` values one after the other. -/
def readMany (r : P.Reader α) : ℕ → P.Reader (List α)
  | 0 => Pure.pure []
  | n + 1 => do
    let value ← r
    let values ← readMany r n
    return value :: values

/-- What was written one after the other is read one after the other. -/
theorem reads_readMany {r : P.Reader α} {items : β → List ParcelItem} {value : β → α} {bs : List β}
    (h : ∀ b ∈ bs, Reads r (items b) (value b)) :
    Reads (readMany r bs.length) (bs.flatMap items) (bs.map value) := by
  induction bs with
  | nil => exact .pure []
  | cons b bs ih =>
    have hrest := ih fun c hc => h c (List.mem_cons_of_mem b hc)
    rw [List.flatMap_cons, ← List.append_nil (bs.flatMap items)]
    exact .bind (h b List.mem_cons_self) (.bind hrest (.pure _))

/-! ## A queue of primitives -/

/-- The parcels that are the list of what was written and not read yet. -/
def queue : MessageParcel where
  Parcel := List ParcelItem
  contents p := p
  empty := []
  contents_empty := rfl
  write p item := p ++ [item]
  contents_write _ _ := rfl
  readInterfaceToken
    | .interfaceToken descriptor :: p => (some descriptor, p)
    | p => (none, p)
  takes_readInterfaceToken := by rintro _ descriptor rest rfl; exact ⟨rfl, rfl⟩
  readInt32
    | .int32 value :: p => (some value, p)
    | p => (none, p)
  takes_readInt32 := by rintro _ value rest rfl; exact ⟨rfl, rfl⟩
  readInt64
    | .int64 value :: p => (some value, p)
    | p => (none, p)
  takes_readInt64 := by rintro _ value rest rfl; exact ⟨rfl, rfl⟩
  readCString
    | .cString value :: p => (some value, p)
    | p => (none, p)
  takes_readCString := by rintro _ value rest rfl; exact ⟨rfl, rfl⟩
  readString
    | .string value :: p => (some value, p)
    | p => (none, p)
  takes_readString := by rintro _ value rest rfl; exact ⟨rfl, rfl⟩
  readBool
    | .bool value :: p => (some value, p)
    | p => (none, p)
  takes_readBool := by rintro _ value rest rfl; exact ⟨rfl, rfl⟩
  readUInt8Vector
    | .uint8Vector value :: p => (some value, p)
    | p => (none, p)
  takes_readUInt8Vector := by rintro _ value rest rfl; exact ⟨rfl, rfl⟩

end MessageParcel

/-! ## Readers of the further kinds -/

namespace FullMessageParcel

open MessageParcel (Reader Reads ReadsAll getD reads_getD)

variable {P : FullMessageParcel}

/-- `ReadInt8`. -/
def int8 : Reader P.toMessageParcel Int8 := getD P.readInt8 0

/-- `ReadUint32`. -/
def uint32 : Reader P.toMessageParcel UInt32 := getD P.readUint32 0

/-- `ReadFloat`. -/
def float : Reader P.toMessageParcel UInt32 := getD P.readFloat 0

/-- `ReadString16`. -/
def string16 : Reader P.toMessageParcel (List UInt16) := getD P.readString16 []

/-- `ReadRawData`, null if it fails. -/
def rawData (size : ℕ) : Reader P.toMessageParcel (Option (List UInt8)) := P.readRawData size

/-- `ReadRemoteObject`, null if it fails. -/
def remoteObject : Reader P.toMessageParcel (Option ℕ) := P.readRemoteObject

/-- `ReadStringVector` into an empty vector. -/
def stringVector : Reader P.toMessageParcel (List ByteString) := getD P.readStringVector []

/-- `ReadString16Vector` into an empty vector, and whether it fails. -/
def string16Vector : Reader P.toMessageParcel (Option (List (List UInt16))) := P.readString16Vector

theorem reads_int8 (value : Int8) : Reads (P := P.toMessageParcel) int8 [.int8 value] value :=
  reads_getD P.takes_readInt8 _ _

theorem reads_uint32 (value : UInt32) :
    Reads (P := P.toMessageParcel) uint32 [.uint32 value] value :=
  reads_getD P.takes_readUint32 _ _

theorem reads_float (bits : UInt32) : Reads (P := P.toMessageParcel) float [.float bits] bits :=
  reads_getD P.takes_readFloat _ _

theorem reads_string16 (value : List UInt16) :
    Reads (P := P.toMessageParcel) string16 [.string16 value] value :=
  reads_getD P.takes_readString16 _ _

theorem reads_rawData {size : ℕ} {bytes : List UInt8} (h : bytes.length = size) :
    Reads (P := P.toMessageParcel) (rawData size) [.rawData bytes] (some bytes) := by
  subst h
  exact fun p rest hp => P.takes_readRawData p bytes rest hp

theorem reads_remoteObject (object : ℕ) :
    Reads (P := P.toMessageParcel) remoteObject [.remoteObject object] (some object) :=
  fun p rest hp => P.takes_readRemoteObject p object rest hp

/-- There is no object where nothing is left. -/
theorem readsAll_remoteObject_nil : ReadsAll (P := P.toMessageParcel) remoteObject [] none :=
  fun p hp => P.readRemoteObject_nil p hp

theorem reads_stringVector (value : List ByteString) :
    Reads (P := P.toMessageParcel) stringVector [.stringVector value] value :=
  reads_getD P.takes_readStringVector _ _

theorem reads_string16Vector (value : List (List UInt16)) :
    Reads (P := P.toMessageParcel) string16Vector [.string16Vector value] (some value) :=
  fun p rest hp => P.takes_readString16Vector p value rest hp

/-- The queue of primitives. -/
def queue : FullMessageParcel where
  toMessageParcel := MessageParcel.queue
  readInt8
    | .int8 value :: p => (some value, p)
    | p => (none, p)
  takes_readInt8 := by rintro _ value rest rfl; exact ⟨rfl, rfl⟩
  readUint32
    | .uint32 value :: p => (some value, p)
    | p => (none, p)
  takes_readUint32 := by rintro _ value rest rfl; exact ⟨rfl, rfl⟩
  readFloat
    | .float bits :: p => (some bits, p)
    | p => (none, p)
  takes_readFloat := by rintro _ bits rest rfl; exact ⟨rfl, rfl⟩
  readString16
    | .string16 value :: p => (some value, p)
    | p => (none, p)
  takes_readString16 := by rintro _ value rest rfl; exact ⟨rfl, rfl⟩
  readRawData size
    | .rawData bytes :: p =>
      if bytes.length = size then (some bytes, p) else (none, .rawData bytes :: p)
    | p => (none, p)
  takes_readRawData := by
    rintro _ bytes rest rfl
    dsimp only
    rw [if_pos rfl]
    exact ⟨rfl, rfl⟩
  readRemoteObject
    | .remoteObject object :: p => (some object, p)
    | p => (none, p)
  takes_readRemoteObject := by rintro _ object rest rfl; exact ⟨rfl, rfl⟩
  readRemoteObject_nil := by rintro _ rfl; exact ⟨rfl, rfl⟩
  readStringVector
    | .stringVector value :: p => (some value, p)
    | p => (none, p)
  takes_readStringVector := by rintro _ value rest rfl; exact ⟨rfl, rfl⟩
  readString16Vector
    | .string16Vector value :: p => (some value, p)
    | p => (none, p)
  takes_readString16Vector := by rintro _ value rest rfl; exact ⟨rfl, rfl⟩

end FullMessageParcel

/-! ## Reads past the end -/

namespace EndingMessageParcel

open MessageParcel (ReadsAll int32 int32Into string)

variable {P : EndingMessageParcel}

/-- `ReadInt32` gives zero where nothing is left. -/
theorem readsAll_int32_nil : ReadsAll (P := P.toMessageParcel) int32 [] 0 := by
  intro p hp
  obtain ⟨hv, hc⟩ := P.readInt32_nil p hp
  exact ⟨by simp [int32, MessageParcel.getD, hv], hc⟩

/-- `ReadInt32` into a variable leaves it as it is where nothing is left. -/
theorem readsAll_int32Into_nil (value : Int32) :
    ReadsAll (P := P.toMessageParcel) (int32Into value) [] value := by
  intro p hp
  obtain ⟨hv, hc⟩ := P.readInt32_nil p hp
  exact ⟨by simp [int32Into, MessageParcel.getD, hv], hc⟩

/-- `ReadString` gives the empty string where nothing is left. -/
theorem readsAll_string_nil : ReadsAll (P := P.toMessageParcel) string [] [] := by
  intro p hp
  obtain ⟨hv, hc⟩ := P.readString_nil p hp
  exact ⟨by simp [string, MessageParcel.getD, hv], hc⟩

/-- The queue of primitives. -/
def queue : EndingMessageParcel where
  toFullMessageParcel := FullMessageParcel.queue
  readInt32_nil := by rintro _ rfl; exact ⟨rfl, rfl⟩
  readString_nil := by rintro _ rfl; exact ⟨rfl, rfl⟩

end EndingMessageParcel

end CallManager
