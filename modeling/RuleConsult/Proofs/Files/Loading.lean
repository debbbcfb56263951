import RuleConsult.Cache
import RuleConsult.Proofs.Table
import RuleConsult.Proofs.Text.Encoding

/-!
# What is read from files

The text of a file depends on the bytes in it and on nothing else in the store, and so do the base
that it is read as and its fingerprint. A fingerprint is never empty, so it is never that of a path
at which there is nothing.

* `FileStore.mem_contents_of_readBytes`: what is read is the content of a file;
* `fetchBase_eq_ok_iff`: when a base is read, in terms of bytes alone;
* `Cache.fingerprint_eq_ok_iff`: the fingerprints that paths can have.
-/

namespace RuleConsult

open Text

/-! ## Bytes -/

namespace FileStore

variable {store : FileStore} {path : Path} {bytes : List UInt8}

/-- The contents of the files. -/
def contents (store : FileStore) : List (List UInt8) :=
  store.nodes.values.filterMap fun
    | .file bytes => some bytes
    | .directory => none

theorem mem_contents_of_get? {place : List String}
    (h : store.nodes.get? place = some (.file bytes)) : bytes ∈ store.contents := by
  have hmem : FileNode.file bytes ∈ store.nodes.values :=
    List.mem_map.2 ⟨_, Table.get?_eq_some_iff.1 h, rfl⟩
  exact List.mem_filterMap.2 ⟨_, hmem, rfl⟩

/-- A file at the end of a walk is one of the store. -/
theorem mem_contents_of_walk {here parts place : List String}
    (h : store.walk here parts = .ok (place, .file bytes)) : bytes ∈ store.contents := by
  -- Each step goes on from another directory; only the last place can hold the file.
  induction parts generalizing here with
  | nil =>
    unfold walk at h
    split at h
    · rename_i node hnode
      cases h
      unfold nodeAt? at hnode
      split at hnode
      · cases hnode
      · exact mem_contents_of_get? hnode
    · cases h
  | cons part rest ih =>
    unfold walk at h
    split at h
    · cases h
    · cases h
    · split at h
      · exact ih h
      · split at h
        · cases h
        · exact ih h

/-- A working directory with one file, which holds a text of ASCII characters. -/
def oneFile (text : String) : FileStore :=
  ⟨Table.empty.insert ["a"] (.file (asciiBytes text)), []⟩

theorem readBytes_eq_ok_iff : store.readBytes path = .ok bytes ↔
    store.find path = .ok (.file bytes) := by
  unfold readBytes
  split <;> simp_all

/-- Bytes that are read are the content of a file. -/
theorem mem_contents_of_readBytes (h : store.readBytes path = .ok bytes) :
    bytes ∈ store.contents := by
  rw [readBytes_eq_ok_iff, find, locate] at h
  split at h
  · exact nomatch h
  · cases hwalk : store.walk (store.origin path) path.parts with
    | error fault =>
      rw [hwalk] at h
      exact nomatch h
    | ok found =>
      rw [hwalk] at h
      obtain ⟨place, node⟩ := found
      cases h
      exact mem_contents_of_walk hwalk

/-- A path at which bytes are read leads somewhere. -/
theorem exists?_of_readBytes (h : store.readBytes path = .ok bytes) :
    store.exists? path = .ok true := by
  rw [readBytes_eq_ok_iff] at h
  simp only [exists?, h]

/-- Where nothing is, nothing is read. -/
theorem readBytes_ne_ok_of_exists? (h : store.exists? path = .ok false) :
    store.readBytes path ≠ .ok bytes := by
  intro hbytes
  rw [exists?_of_readBytes hbytes] at h
  cases h

/-! ## Texts -/

section

variable [Encodings]

theorem encodingOf_text {name : String} {code : Encoding}
    (hname : name.toList.contains (Char.ofNat 0) = false)
    (hcode : Encoding.ofName? name = some code) : encodingOf (.text name) = .ok code := by
  simp only [encodingOf, hname, hcode]
  rfl

/-- UTF-8 is known by its name wherever the program runs. -/
theorem encodingOf_utf8 : encodingOf (.text "utf-8") = .ok .utf8 :=
  have hname : mainEncodingName "utf-8" = "utf_8" := by decide +kernel
  encodingOf_text (by decide) (Encoding.ofName?_eq_some hname rfl)

/-- UTF-16 is known by its name wherever the program runs. -/
theorem encodingOf_utf16 : encodingOf (.text "utf-16") = .ok .utf16 :=
  have hname : mainEncodingName "utf-16" = "utf_16" := by decide +kernel
  encodingOf_text (by decide) (Encoding.ofName?_eq_some hname rfl)

/-- Reading a text, once the encoding is one: the bytes are read and decoded. -/
theorem readText_of_encodingOf {encoding : Datum} {code : Encoding}
    (h : encodingOf encoding = .ok code) : store.readText path encoding =
      store.readBytes path >>= fun bytes => (code.readText bytes).mapError .ofDecode := by
  rw [readText, h]
  rfl

/-- Two encodings in which the bytes have the same text are as good as each other. -/
theorem readText_congr {encoding other : Datum} {code otherCode : Encoding}
    (hread : store.readBytes path = .ok bytes) (hcode : encodingOf encoding = .ok code)
    (hother : encodingOf other = .ok otherCode)
    (hsame : code.readText bytes = otherCode.readText bytes) :
    store.readText path encoding = store.readText path other := by
  rw [readText_of_encodingOf hcode, readText_of_encodingOf hother, hread]
  exact congrArg (Except.mapError FileFault.ofDecode) hsame

/-- A text is read exactly from a file, and in an encoding. -/
theorem readText_eq_ok_iff {encoding : Datum} {text : String} :
    store.readText path encoding = .ok text ↔
      ∃ bytes code, store.readBytes path = .ok bytes ∧ encodingOf encoding = .ok code ∧
        code.readText bytes = .ok text := by
  cases hcode : encodingOf encoding with
  | error fault =>
    unfold readText
    rw [hcode]
    cases fault <;> cases store.readBytes path <;> simp [Bind.bind, Except.bind]
  | ok code =>
    rw [readText_of_encodingOf hcode]
    cases store.readBytes path with
    | error fault => simp [Bind.bind, Except.bind]
    | ok bytes =>
      cases hread : code.readText bytes <;>
        simp [Bind.bind, Except.bind, Except.mapError, hread]

end

end FileStore

/-! ## Fingerprints -/

/-- A fingerprint has digits. -/
theorem Digest.fingerprint_ne_empty (bytes : List UInt8) : Digest.fingerprint bytes ≠ "" := by
  -- The first byte of the digest is written with at least one digit.
  have hhex (n : Nat) : hexText 2 n ≠ [] :=
    List.append_ne_nil_of_right_ne_nil _ Nat.toDigits_ne_nil
  have hmd5 : (Digest.md5 bytes).toList ≠ [] := by
    rw [Digest.md5, String.toList_ofList, List.flatMap_cons, Digest.littleEndian,
      List.flatMap_cons]
    exact List.append_ne_nil_of_left_ne_nil
      (List.append_ne_nil_of_left_ne_nil (hhex _) _) _
  intro h
  rw [Digest.fingerprint, String.ofList_eq_empty_iff, List.take_eq_nil_iff] at h
  exact h.elim (by decide) hmd5

namespace Cache

variable {store : FileStore} {path : Path}

/-- The fingerprint of a path is that of the bytes at it, or empty if nothing is there. -/
theorem fingerprint_eq_ok_iff {mark : String} : fingerprint store path = .ok mark ↔
    (∃ bytes, store.readBytes path = .ok bytes ∧ mark = Digest.fingerprint bytes) ∨
      store.exists? path = .ok false ∧ mark = "" := by
  unfold fingerprint
  cases hexists : store.exists? path with
  | error fault =>
    have hbytes (bytes) : store.readBytes path ≠ .ok bytes := fun h => by
      rw [FileStore.exists?_of_readBytes h] at hexists
      cases hexists
    simp [Bind.bind, Except.bind, hbytes]
  | ok found =>
    cases found with
    | false =>
      have hbytes (bytes) : store.readBytes path ≠ .ok bytes :=
        FileStore.readBytes_ne_ok_of_exists? hexists
      simp [Bind.bind, Except.bind, pure, Except.pure, hbytes, eq_comm]
    | true =>
      cases hbytes : store.readBytes path <;>
        simp [Bind.bind, Except.bind, pure, Except.pure, eq_comm]

/-- A fingerprint cannot be taken at a path that is too long, nor of a directory. -/
theorem fingerprint_eq_error {fault : FileFault} (h : fingerprint store path = .error fault) :
    store.find path = .error .tooLong ∧ fault = .tooLong ∨
      store.find path = .ok .directory ∧ fault = .directory := by
  unfold fingerprint FileStore.exists? FileStore.readBytes at h
  cases hfind : store.find path with
  | error other =>
    rw [hfind] at h
    cases other <;> cases h
    exact Or.inl ⟨rfl, rfl⟩
  | ok node =>
    rw [hfind] at h
    cases node <;> cases h
    exact Or.inr ⟨rfl, rfl⟩

/-- The fingerprint of a file. -/
theorem fingerprint_of_readBytes {bytes : List UInt8} (h : store.readBytes path = .ok bytes) :
    fingerprint store path = .ok (Digest.fingerprint bytes) :=
  fingerprint_eq_ok_iff.2 (Or.inl ⟨bytes, h, rfl⟩)

end Cache

/-! ## Bases -/

section

variable [Encodings]

/-- The bytes of a file are read as the base. -/
def ReadAs (keywords : Keywords) (encoding : Datum) (bytes : List UInt8) (base : Base) : Prop :=
  ∃ code text, FileStore.encodingOf encoding = .ok code ∧ code.readText bytes = .ok text ∧
    loadBase keywords text = .ok base

variable {keywords : Keywords} {encoding : Datum} {store : FileStore} {path : Path}

/-- A text is fetched exactly if it is read. -/
theorem fetchText_eq_ok_iff {text : String} :
    fetchText encoding store path = .ok text ↔ store.readText path encoding = .ok text := by
  unfold fetchText
  cases hexists : store.exists? path with
  | error fault =>
    refine ⟨fun h => (nomatch h), fun h => ?_⟩
    obtain ⟨bytes, -, hbytes, -⟩ := FileStore.readText_eq_ok_iff.1 h
    rw [FileStore.exists?_of_readBytes hbytes] at hexists
    cases hexists
  | ok found =>
    cases found with
    | false =>
      refine ⟨fun h => (nomatch h), fun h => ?_⟩
      obtain ⟨bytes, -, hbytes, -⟩ := FileStore.readText_eq_ok_iff.1 h
      exact absurd hbytes (FileStore.readBytes_ne_ok_of_exists? hexists)
    | true => cases store.readText path encoding <;> simp [Except.mapError]

theorem fetchBase_of_fetchText {text : String} (h : fetchText encoding store path = .ok text) :
    fetchBase keywords encoding store path = (loadBase keywords text).mapError .load := by
  rw [fetchBase, h]
  rfl

/-- A base is fetched exactly from a file whose bytes are read as that base. -/
theorem fetchBase_eq_ok_iff {base : Base} : fetchBase keywords encoding store path = .ok base ↔
    ∃ bytes, store.readBytes path = .ok bytes ∧ ReadAs keywords encoding bytes base := by
  have hload (text) : (loadBase keywords text).mapError FetchFault.load = .ok base ↔
      loadBase keywords text = .ok base := by
    cases loadBase keywords text <;> simp [Except.mapError]
  constructor
  · intro h
    cases htext : fetchText encoding store path with
    | error fault =>
      rw [fetchBase, htext] at h
      exact nomatch h
    | ok text =>
      rw [fetchBase_of_fetchText htext] at h
      obtain ⟨bytes, code, hbytes, hcode, hread⟩ :=
        FileStore.readText_eq_ok_iff.1 (fetchText_eq_ok_iff.1 htext)
      exact ⟨bytes, hbytes, code, text, hcode, hread, (hload text).1 h⟩
  · rintro ⟨bytes, hbytes, code, text, hcode, hread, hbase⟩
    have htext : fetchText encoding store path = .ok text :=
      fetchText_eq_ok_iff.2 (FileStore.readText_eq_ok_iff.2 ⟨bytes, code, hbytes, hcode, hread⟩)
    rw [fetchBase_of_fetchText htext]
    exact (hload text).2 hbase

/-- Where there is a file, nothing but reading its text and the document in it can fail. -/
theorem fetchBase_of_readBytes {bytes : List UInt8} (h : store.readBytes path = .ok bytes) :
    fetchBase keywords encoding store path =
      match store.readText path encoding with
      | .error fault => .error (.file fault)
      | .ok text => (loadBase keywords text).mapError .load := by
  rw [fetchBase, fetchText, FileStore.exists?_of_readBytes h]
  cases store.readText path encoding <;> rfl

/-- A path whose fingerprint cannot be taken is not read either, for the same reason. -/
theorem fetchBase_of_fingerprint_eq_error {code : Encoding} {fault : FileFault}
    (hcode : FileStore.encodingOf encoding = .ok code)
    (h : Cache.fingerprint store path = .error fault) :
    fetchBase keywords encoding store path = .error (.file fault) := by
  unfold Cache.fingerprint at h
  unfold fetchBase fetchText
  cases hexists : store.exists? path with
  | error other =>
    rw [hexists] at h
    cases h
    rfl
  | ok found =>
    rw [hexists] at h
    cases found with
    | false => exact nomatch h
    | true =>
      -- There is something, but no bytes are read there.
      cases hbytes : store.readBytes path with
      | ok bytes =>
        rw [hbytes] at h
        exact nomatch h
      | error other =>
        rw [hbytes] at h
        cases h
        dsimp only
        rw [FileStore.readText_of_encodingOf hcode, hbytes]
        rfl

end

end RuleConsult
