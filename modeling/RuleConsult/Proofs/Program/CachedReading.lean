import RuleConsult.Program
import RuleConsult.Program.Usual
import RuleConsult.Proofs.Cache.Calls
import RuleConsult.Proofs.Keywords
import RuleConsult.Proofs.Text.Encoding
import Mathlib

/-!
# Reading a base with and without the cache

A command reads its base through the cache or directly, as the settings say. The shared cache is
made for the keywords of the settings, but it reads every file in UTF-8, whatever encoding the
settings name. So turning the cache on amounts to reading directly in UTF-8 (`readBase_cached`).
It makes no difference where the configured encoding gives the file the same text: for UTF-8 always,
for other encodings if the file is in ASCII.
-/

namespace RuleConsult

open Text

/-- The settings with the cache turned on or off, and a number of entries for it. -/
def Settings.withCache (settings : Settings) (enabled : Bool) (limit : Int) : Settings :=
  { settings with cache := ⟨.bool enabled, .int limit⟩ }

/-- The settings with files in another encoding. -/
def Settings.withEncoding (settings : Settings) (encoding : Datum) : Settings :=
  { settings with language := { settings.language with encoding } }

section

variable [Encodings]

theorem FileStore.encodingOf_cp1251 : encodingOf (.text "cp1251") = .ok .cp1251 :=
  have hname : mainEncodingName "cp1251" = "cp1251" := by decide +kernel
  encodingOf_text (by decide) (Encoding.ofName?_eq_some hname rfl)

namespace Program

variable {settings : Settings} {store : FileStore} {path : Path} {bytes : List UInt8}

/-- A shared cache that is made for the request reads in UTF-8. -/
theorem readBase_withCache_true (settings : Settings) (limit : Int) (store : FileStore)
    (path : Path) {shared : SharedCache} (hshared : shared.current = none) :
    readBase (settings.withCache true limit) shared store path =
      (fetchBase settings.language.keywords (.text "utf-8") store path).mapError .fetch := by
  have hcache : cacheFor (settings.withCache true limit) shared =
      some (.new (some limit) settings.language.keywords (.text "utf-8")) := by
    change some (shared.obtain (some limit) settings.language.keywords).1 = _
    rw [SharedCache.obtain, hshared]
  simp only [readBase, hcache]
  exact Cache.base_getOrLoad_new limit _ _ store path

/-- Without the cache a file is read in the encoding of the settings. -/
theorem readBase_withCache_false (settings : Settings) (limit : Int) (shared : SharedCache)
    (hread : store.readBytes path = .ok bytes) :
    readBase (settings.withCache false limit) shared store path =
      (fetchBase settings.language.keywords settings.language.encoding store path).mapError
        .fetch := by
  have hcache : cacheFor (settings.withCache false limit) shared = none := rfl
  have hlanguage : (settings.withCache false limit).language = settings.language := rfl
  rw [fetchBase_of_readBytes hread]
  simp only [readBase, hcache, hlanguage]
  cases store.readText path settings.language.encoding with
  | error fault => rfl
  | ok text =>
    dsimp only
    cases loadBase settings.language.keywords text <;> rfl

/-- The cache does make a difference for a file that has a text in the encoding of the settings, but
none in UTF-8: with the cache it is refused for its bytes. -/
theorem readBase_withCache_ne (settings : Settings) (limit : Int) {code : Encoding} {text : String}
    {fault : DecodeFault} (hread : store.readBytes path = .ok bytes)
    (hcode : FileStore.encodingOf settings.language.encoding = .ok code)
    (htext : code.readText bytes = .ok text)
    (hfault : Encoding.utf8.readText bytes = .error fault) :
    readBase (settings.withCache true limit) .empty store path ≠
      readBase (settings.withCache false limit) .empty store path := by
  have hcached : store.readText path (.text "utf-8") = .error (.ofDecode fault) := by
    rw [FileStore.readText_of_encodingOf FileStore.encodingOf_utf8, hread]
    exact congrArg (Except.mapError FileFault.ofDecode) hfault
  have hdirect : store.readText path settings.language.encoding = .ok text :=
    FileStore.readText_eq_ok_iff.2 ⟨bytes, code, hread, hcode, htext⟩
  rw [readBase_withCache_true _ _ _ _ rfl, readBase_withCache_false _ _ _ hread,
    fetchBase_of_readBytes hread, fetchBase_of_readBytes hread, hcached, hdirect]
  -- What follows the text is no fault of the file.
  dsimp only
  cases loadBase settings.language.keywords text <;> exact nofun

/-- For a file, turning the cache on amounts to reading in UTF-8 without it. So a command does the
same with and without the cache if the bytes have the same text in the encoding of the settings. -/
theorem readBase_cached [Toolkit] (settings : Settings) (limit : Int) {store : FileStore}
    {file : String} {bytes : List UInt8}
    (hfile : store.find (Path.ofText file) = .ok (.file bytes)) :
    (∀ shared : SharedCache, shared.current = none →
      readBase (settings.withCache true limit) shared store (Path.ofText file) =
        readBase ((settings.withEncoding (.text "utf-8")).withCache false limit) shared store
          (Path.ofText file)) ∧
    ∀ code, FileStore.encodingOf settings.language.encoding = .ok code →
      code.readText bytes = Encoding.utf8.readText bytes → ∀ next,
        withBase (settings.withCache true limit) store file next =
          withBase (settings.withCache false limit) store file next := by
  have hread := FileStore.readBytes_eq_ok_iff.2 hfile
  refine ⟨fun shared hshared => ?_, fun code hcode hsame next => ?_⟩
  · rw [readBase_withCache_true _ _ _ _ hshared, readBase_withCache_false _ _ _ hread]
    rfl
  · have htext := FileStore.readText_congr hread hcode FileStore.encodingOf_utf8 hsame
    have hbase : readBase (settings.withCache true limit) .empty store (Path.ofText file) =
        readBase (settings.withCache false limit) .empty store (Path.ofText file) := by
      rw [readBase_withCache_true _ _ _ _ rfl, readBase_withCache_false _ _ _ hread,
        fetchBase_of_readBytes hread, fetchBase_of_readBytes hread, htext]
    -- Reports are worded by the encoding of the settings in either case.
    simp only [withBase, hbase]
    rfl

end Program

end

namespace Program

open Usual in
/-- A rule in ASCII, although the settings name another encoding. -/
theorem readBase_cached_ascii :
    let settings : Settings := { language := ⟨.text "cp1251", .text ".kb", numberedKeywords⟩ }
    let bytes := asciiBytes "1 if a-b then c-d\n"
    let store := FileStore.oneFile "1 if a-b then c-d\n"
    store.find (Path.ofText "a") = .ok (.file bytes) ∧
      Encoding.cp1251.readText bytes = Encoding.utf8.readText bytes ∧
        withBase (settings.withCache true 50) store "a" (dump settings) =
          withBase (settings.withCache false 50) store "a" (dump settings) := by
  intro settings bytes store
  have hpath : Path.ofText "a" = ⟨"", ["a"]⟩ := by cbv
  have hfile : store.find (Path.ofText "a") = .ok (.file bytes) := by
    rw [hpath]
    rfl
  have hsame : Encoding.cp1251.readText bytes = Encoding.utf8.readText bytes :=
    Encoding.readText_of_isAscii (Encoding.extendsAscii_of_mem (by simp))
      (Encoding.extendsAscii_of_mem (by simp)) (by decide +kernel)
  exact ⟨hfile, hsame,
    (readBase_cached settings 50 hfile).2 .cp1251 FileStore.encodingOf_cp1251 hsame _⟩

open Usual in
/-- A space of code page 1251 alone in a file. -/
theorem readBase_cached_space :
    let settings : Settings := Settings.withEncoding {} (.text "cp1251")
    let store : FileStore := ⟨Table.empty.insert ["a"] (.file [0xA0]), []⟩
    readBase (settings.withCache true 50) .empty store ⟨"", ["a"]⟩ ≠
      readBase (settings.withCache false 50) .empty store ⟨"", ["a"]⟩ := by
  intro settings store
  exact readBase_withCache_ne settings 50 rfl FileStore.encodingOf_cp1251 rfl rfl

end Program

end RuleConsult
