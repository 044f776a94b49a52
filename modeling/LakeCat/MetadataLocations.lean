import LakeCat.CredentialScope
import LakeCat.TokenOrigins

/-!
Where the service writes and deletes metadata objects. A location is checked
against the prefix of its storage profile as a parsed URL, and the path of the
object is read from the same URL after percent-decoding.
-/

namespace LakeCat

open Fallible

/-! Paths as bytes. -/

def toBytes (text : String) : List UInt8 :=
  text.toList.flatMap String.utf8EncodeChar

theorem toBytes_append (front rest : String) :
    toBytes (front ++ rest) = toBytes front ++ toBytes rest := by
  simp [toBytes]

/-- `hex_value`. -/
def hexValueByte (byte : UInt8) : Option UInt8 :=
  if 48 ≤ byte && byte ≤ 57 then some (byte - 48)
  else if 97 ≤ byte && byte ≤ 102 then some (byte - 97 + 10)
  else if 65 ≤ byte && byte ≤ 70 then some (byte - 65 + 10)
  else none

def percentSign : UInt8 := 37

def slash : UInt8 := 47

def percentDecodeBytes : List UInt8 → List UInt8
  | byte :: high :: low :: rest =>
      if byte = percentSign then
        match hexValueByte high, hexValueByte low with
        | some upper, some lower => (upper <<< 4 ||| lower) :: percentDecodeBytes rest
        | _, _ => byte :: percentDecodeBytes (high :: low :: rest)
      else byte :: percentDecodeBytes (high :: low :: rest)
  | byte :: rest => byte :: percentDecodeBytes rest
  | [] => []

def percentDecodeSegment (segment : String) : Option (List UInt8) :=
  if percentSign ∈ toBytes segment then some (percentDecodeBytes (toBytes segment)) else none

theorem percentDecodeBytes_plain {byte : UInt8} (plain : byte ≠ percentSign)
    (rest : List UInt8) : percentDecodeBytes (byte :: rest) = byte :: percentDecodeBytes rest := by
  match rest with
  | [] => rfl
  | [_] => rfl
  | _ :: _ :: _ => rw [percentDecodeBytes, if_neg plain]

theorem percentDecodeBytes_literal {byte high low : UInt8} (rest : List UInt8)
    (literal : hexValueByte high = none ∨ hexValueByte low = none) :
    percentDecodeBytes (byte :: high :: low :: rest) =
      byte :: percentDecodeBytes (high :: low :: rest) := by
  rw [percentDecodeBytes]
  split
  · split
    next upperEq lowerEq =>
      rcases literal with absent | absent
      · rw [absent] at upperEq
        cases upperEq
      · rw [absent] at lowerEq
        cases lowerEq
    next => rfl
  · rfl

/-- No escape reaches over a slash. -/
theorem percentDecodeBytes_slash (front rest : List UInt8) :
    percentDecodeBytes (front ++ slash :: rest) =
      percentDecodeBytes front ++ slash :: percentDecodeBytes rest := by
  have notHex : hexValueByte slash = none := by decide
  have notSign : slash ≠ percentSign := by decide
  fun_induction percentDecodeBytes front with
  | case1 high low others upper lower upperEq lowerEq ih =>
      simp only [List.cons_append]
      rw [percentDecodeBytes, if_pos rfl, upperEq, lowerEq]
      exact congrArg (_ :: ·) ih
  | case2 high low others notBoth ih =>
      have literal : hexValueByte high = none ∨ hexValueByte low = none := by
        cases upperEq : hexValueByte high with
        | none => exact .inl rfl
        | some upper =>
            cases lowerEq : hexValueByte low with
            | none => exact .inr rfl
            | some lower => exact absurd lowerEq (notBoth upper lower upperEq)
      simp only [List.cons_append] at ih ⊢
      rw [percentDecodeBytes_literal _ literal, ih]
  | case3 byte high low others plain ih =>
      simp only [List.cons_append] at ih ⊢
      rw [percentDecodeBytes_plain plain, ih]
  | case4 byte others short ih =>
      have passes : percentDecodeBytes (byte :: (others ++ slash :: rest)) =
          byte :: percentDecodeBytes (others ++ slash :: rest) := by
        match others, short with
        | [], _ =>
            cases rest with
            | nil => rfl
            | cons next rest => exact percentDecodeBytes_literal rest (.inl notHex)
        | [next], _ => exact percentDecodeBytes_literal rest (.inr notHex)
        | first :: second :: more, short => exact absurd rfl (short first second more)
      rw [List.cons_append, passes, ih]
      rfl
  | case5 =>
      rw [List.nil_append, percentDecodeBytes_plain notSign]
      rfl

/-- The names in a path, decoded. Empty ones are left out. -/
def pathSegments (path : String) : List (List UInt8) :=
  ((percentDecodeBytes (toBytes path)).splitOn slash).filter fun segment => !segment.isEmpty

theorem pathSegments_slash (front rest : String) :
    pathSegments (front ++ "/" ++ rest) = pathSegments front ++ pathSegments rest := by
  have bytes : toBytes (front ++ "/" ++ rest) = toBytes front ++ slash :: toBytes rest := by
    rw [toBytes_append, toBytes_append, List.append_assoc]
    rfl
  rw [pathSegments, bytes, percentDecodeBytes_slash, List.splitOn_append_cons_self,
    List.filter_append, pathSegments, pathSegments]

theorem splitOn_text {bytes : List UInt8} {byte : UInt8} (member : byte ∈ bytes)
    (text : byte ≠ slash) :
    (bytes.splitOn slash).filter (fun segment => !segment.isEmpty) ≠ [] := by
  induction bytes with
  | nil => cases member
  | cons first rest ih =>
      rw [List.splitOn_cons_eq_if_modifyHead]
      split
      next separator =>
        have same : first = slash := by simpa using separator
        have later : byte ∈ rest := by
          rcases List.mem_cons.mp member with rfl | later
          · exact absurd same text
          · exact later
        simpa using ih later
      next =>
        cases pieces : rest.splitOn slash with
        | nil => exact absurd pieces (List.splitOn_ne_nil slash rest)
        | cons piece others => simp

/-- One path goes on after another with slashes only. -/
def AddsOnlySlashes (front path : String) : Prop :=
  ∃ rest, path = front ++ rest ∧ ∀ byte ∈ percentDecodeBytes (toBytes rest), byte = slash

theorem endsWithChar_append {text : String} {last : Char} (ends : endsWithChar text last = true) :
    ∃ front, text = front ++ String.singleton last := by
  rw [endsWithChar, decide_eq_true_eq] at ends
  obtain ⟨front, parts⟩ := List.getLast?_eq_some_iff.mp ends
  exact ⟨String.ofList front, String.ext (by simpa using parts)⟩

/-- What follows a prefix begins with a slash, or the prefix ends with one. -/
theorem pathIsStrictlyWithinPrefix_parts {path pathPrefix : String}
    (within : pathIsStrictlyWithinPrefix path pathPrefix = true) :
    (endsWithChar pathPrefix '/' = true ∧ ∃ rest, path = pathPrefix ++ rest) ∨
      ∃ rest, path = pathPrefix ++ "/" ++ rest := by
  unfold pathIsStrictlyWithinPrefix at within
  split at within
  · cases within
  · split at within
    next ends => exact .inl ⟨ends, (startsWith_iff _ _).mp within⟩
    next =>
      cases stripped : stripHead path pathPrefix with
      | none =>
          rw [stripped] at within
          cases within
      | some suffix =>
          rw [stripped] at within
          obtain ⟨rest, rfl⟩ := (startsWith_iff _ _).mp within
          exact .inr ⟨rest, by rw [stripHead_some stripped, String.append_assoc]⟩

/-- What lies strictly within a prefix follows it as whole names. -/
theorem pathSegments_within {path pathPrefix : String}
    (within : pathIsStrictlyWithinPrefix path pathPrefix = true) :
    ∃ rest, path = pathPrefix ++ rest ∧
      pathSegments path = pathSegments pathPrefix ++ pathSegments rest := by
  have nothing : pathSegments "" = [] := by decide +kernel
  rcases pathIsStrictlyWithinPrefix_parts within with ⟨ends, rest, rfl⟩ | ⟨rest, rfl⟩
  · obtain ⟨front, rfl⟩ := endsWithChar_append ends
    have closed := pathSegments_slash front ""
    rw [String.append_empty, nothing, List.append_nil] at closed
    refine ⟨rest, rfl, ?_⟩
    exact (pathSegments_slash front rest).trans (congrArg (· ++ pathSegments rest) closed.symm)
  · have opened := pathSegments_slash "" rest
    rw [String.empty_append, nothing, List.nil_append] at opened
    refine ⟨"/" ++ rest, by rw [String.append_assoc], ?_⟩
    rw [pathSegments_slash, opened]

theorem pathSegments_text {rest : String}
    (named : ∃ byte ∈ percentDecodeBytes (toBytes rest), byte ≠ slash) :
    pathSegments rest ≠ [] := by
  obtain ⟨byte, member, text⟩ := named
  exact splitOn_text member text

theorem locationMatches_parts {location locationPrefix : String}
    (parts : (endsWithChar locationPrefix '/' = true ∧ ∃ rest, location = locationPrefix ++ rest) ∨
      ∃ rest, location = locationPrefix ++ "/" ++ rest) :
    locationMatchesStorageProfilePrefix location locationPrefix = true := by
  unfold locationMatchesStorageProfilePrefix
  split
  · rfl
  · split
    next =>
      rw [startsWith_iff]
      rcases parts with ⟨_, rest, rfl⟩ | ⟨rest, rfl⟩
      · exact ⟨rest, rfl⟩
      · exact ⟨"/" ++ rest, String.append_assoc⟩
    next unended =>
      rcases parts with ⟨ends, _⟩ | ⟨rest, rfl⟩
      · exact absurd ends unended
      · rw [String.append_assoc, stripHead_append, Option.any_some]
        exact startsWith_append "/" rest

/-- Two locations that are spelled alike up to their paths are compared alike. -/
theorem locationMatches_front {path pathPrefix : String} (front : String)
    (within : pathIsStrictlyWithinPrefix path pathPrefix = true) :
    locationMatchesStorageProfilePrefix (front ++ path) (front ++ pathPrefix) = true := by
  apply locationMatches_parts
  rcases pathIsStrictlyWithinPrefix_parts within with ⟨ends, rest, rfl⟩ | ⟨rest, rfl⟩
  · obtain ⟨stem, rfl⟩ := endsWithChar_append ends
    refine .inl ⟨?_, rest, by simp only [String.append_assoc]⟩
    simp [endsWithChar]
  · exact .inr ⟨rest, by simp only [String.append_assoc]⟩

/-! The checks of a metadata location. -/

def credentialMarkers : List String :=
  ["token=", "secret=", "credential=", "password=", "access_key=", "session_token="]

def containsMarker (value : String) : Bool :=
  credentialMarkers.any fun marker => containsText (toAsciiLowercase value) marker

/-- Segments without an escape are not decoded; they are part of the location itself. -/
def locationHasCredentialMarker (location : String) : Bool :=
  containsMarker location ||
    (((splitChars (fun ch => ['/', '?', '#'].contains ch) location.toList).filterMap fun segment =>
      percentDecodeSegment (String.ofList segment)).filterMap fun bytes =>
        String.fromUTF8? ⟨bytes.toArray⟩).any containsMarker

section Checks

variable [External] [LocationUrls]

def locationHasQueryOrFragment (location : String) : Bool :=
  match LocationUrls.parse location with
  | some url => url.query.isSome || url.fragment.isSome
  | none => containsAny location ['?', '#']

def locationHasUserinfoPart (location : String) : Bool :=
  (LocationUrls.parse location).any fun url => url.username ≠ "" || url.password.isSome

def metadataLocationHashContext (location : String) : String :=
  hashContext "metadata-location" location

def refuseMetadataLocation (location reason : String) : LakeCatError :=
  .invalidArgument ("metadata object location " ++ metadataLocationHashContext location ++ reason)

def validateMetadataObjectLocationShape (location : String) : LakeCatResult Unit := do
  rejectIf (locationHasDotPathSegment location)
    (refuseMetadataLocation location " must not contain dot path segments")
  rejectIf (locationHasQueryOrFragment location)
    (refuseMetadataLocation location " must not include query strings or fragments")
  rejectIf (locationHasUserinfoPart location)
    (refuseMetadataLocation location " must not include userinfo")
  rejectIf (locationHasCredentialMarker location)
    (refuseMetadataLocation location " must not contain credential material")

def validateMetadataObjectLocation (newMetadataLocation : String)
    (currentMetadataLocation : Option String) (storageProfile : StorageProfile) :
    LakeCatResult Unit := do
  rejectIf (currentMetadataLocation = some newMetadataLocation)
    (.invalidArgument ("metadata object commit must not overwrite the current metadata " ++
      "location; " ++ metadataLocationHashContext newMetadataLocation))
  validateMetadataObjectLocationShape newMetadataLocation
  rejectIf (¬locationIsStrictlyWithinPrefix newMetadataLocation storageProfile.locationPrefix)
    (refuseMetadataLocation newMetadataLocation
      (" is outside the selected storage profile prefix or is not a child object; " ++
        "storage-profile-prefix-hash=" ++ contentHashBytes storageProfile.locationPrefix))

theorem validateMetadataObjectLocation_within {location : String} {current : Option String}
    {storageProfile : StorageProfile}
    (accepted : validateMetadataObjectLocation location current storageProfile = .ok ()) :
    locationIsStrictlyWithinPrefix location storageProfile.locationPrefix = true := by
  simp only [validateMetadataObjectLocation, bind_eq_ok, exists_unit, rejectIf_ok,
    not_not] at accepted
  exact accepted.2.2

end Checks

/-! The objects. -/

/-- What `object_store` makes of a URL: the names of a path that select a bucket, those that then
name the object, and the texts of its errors. -/
class ObjectStores where
  bucket : LocationUrl → List (List UInt8)
  objectPath : LocationUrl → Except String (List (List UInt8))
  buildError : LocationUrl → Option String
  parseError : String → String

/-- `Path::from_url_path`: a path is decoded before it is split, and has no relative names. -/
structure ObjectStores.Documented [ObjectStores] : Prop where
  decoded : ∀ url path, objectPath url = .ok path → bucket url ++ path = pathSegments url.path
  plain : ∀ url path, objectPath url = .ok path →
    ∀ segment ∈ path, segment ≠ toBytes "." ∧ segment ≠ toBytes ".."

section Objects

variable [External] [LocationUrls] [ObjectStores]

def backendErrorHashContext (detail : String) : String :=
  hashContext "backend-error" detail

def unsupportedLocation (location detail : String) : LakeCatError :=
  .invalidArgument ("metadata object location " ++ metadataLocationHashContext location ++
    " is not supported or is not configured: " ++ backendErrorHashContext detail)

/-- The URL that selects the client and the path that the client is given, to write an object and
to delete it. -/
def metadataObjectStore (location : String) : LakeCatResult (LocationUrl × List (List UInt8)) := do
  let url ← okOr (LocationUrls.parse location)
    (.invalidArgument ("invalid metadata location " ++ metadataLocationHashContext location ++
      "; " ++ backendErrorHashContext (ObjectStores.parseError location)))
  match ObjectStores.objectPath url with
  | .error detail => .error (unsupportedLocation location detail)
  | .ok path =>
      match ObjectStores.buildError url with
      | some detail => .error (unsupportedLocation location detail)
      | none => return (url, path)

theorem metadataObjectStore_ok {location : String} {url : LocationUrl}
    {path : List (List UInt8)} (opened : metadataObjectStore location = .ok (url, path)) :
    LocationUrls.parse location = some url ∧ ObjectStores.objectPath url = .ok path := by
  obtain ⟨parsed, found, rest⟩ := (bind_eq_ok _ _ _).mp opened
  rw [okOr_ok] at found
  cases read : ObjectStores.objectPath parsed with
  | error detail =>
      rw [read] at rest
      cases rest
  | ok names =>
      rw [read] at rest
      cases built : ObjectStores.buildError parsed with
      | some detail =>
          rw [built] at rest
          cases rest
      | none =>
          rw [built] at rest
          simp only [pure_eq, Except.ok.injEq, Prod.mk.injEq] at rest
          obtain ⟨rfl, rfl⟩ := rest
          exact ⟨found, read⟩

omit [External] [LocationUrls] [ObjectStores] in
def LocationUrl.SameAuthority (left right : LocationUrl) : Prop :=
  left.scheme = right.scheme ∧ left.username = right.username ∧
    left.password = right.password ∧ left.hostStr = right.hostStr ∧ left.port = right.port

/-- The object of a location lies where the prefix leads, and deeper unless the location only adds
slashes. -/
structure ContainedIn (prefixUrl locationUrl : LocationUrl) (path : List (List UInt8)) :
    Prop where
  sameAuthority : locationUrl.SameAuthority prefixUrl
  plain : ∀ segment ∈ path, segment ≠ toBytes "." ∧ segment ≠ toBytes ".."
  inside : ∃ added, ObjectStores.bucket locationUrl ++ path =
      pathSegments prefixUrl.path ++ added ∧
    (¬AddsOnlySlashes prefixUrl.path locationUrl.path → added ≠ [])

omit [External] [ObjectStores] in
/-- A text is what the parts of its URL are written as: a front and the path. -/
def SpelledOut (front : String → String → Option String → Option String → Option Nat → String)
    (text : String) : Prop :=
  ∃ url, LocationUrls.parse text = some url ∧
    text = front url.scheme url.username url.password url.hostStr url.port ++ url.path

omit [External] [ObjectStores] in
theorem locationIsStrictlyWithinPrefix_parsed {location locationPrefix : String}
    {locationUrl prefixUrl : LocationUrl}
    (within : locationIsStrictlyWithinPrefix location locationPrefix = true)
    (parsed : LocationUrls.parse location = some locationUrl)
    (prefixParsed : LocationUrls.parse locationPrefix = some prefixUrl) :
    locationUrl.SameAuthority prefixUrl ∧
      pathIsStrictlyWithinPrefix locationUrl.path prefixUrl.path = true := by
  unfold locationIsStrictlyWithinPrefix at within
  split at within
  · cases within
  · rw [parsed, prefixParsed] at within
    dsimp only at within
    split at within
    next same => exact ⟨same, within⟩
    next => cases within

omit [External] [ObjectStores] in
theorem locationIsStrictlyWithinPrefix_unparsed {location locationPrefix : String}
    (within : locationIsStrictlyWithinPrefix location locationPrefix = true)
    (unparsed : LocationUrls.parse locationPrefix = none) :
    pathIsStrictlyWithinPrefix location locationPrefix = true := by
  unfold locationIsStrictlyWithinPrefix at within
  split at within
  · cases within
  · rw [unparsed] at within
    cases located : LocationUrls.parse location <;> simpa only [located] using within

omit [External] [LocationUrls] in
theorem containedIn_within (documented : ObjectStores.Documented)
    {locationUrl prefixUrl : LocationUrl} {path : List (List UInt8)}
    (same : locationUrl.SameAuthority prefixUrl)
    (within : pathIsStrictlyWithinPrefix locationUrl.path prefixUrl.path = true)
    (named : ObjectStores.objectPath locationUrl = .ok path) :
    ContainedIn prefixUrl locationUrl path where
  sameAuthority := same
  plain := documented.plain locationUrl path named
  inside := by
    obtain ⟨rest, follows, segments⟩ := pathSegments_within within
    refine ⟨pathSegments rest, ?_, ?_⟩
    · rw [documented.decoded locationUrl path named, segments]
    · intro deeper
      apply pathSegments_text
      by_contra onlySlashes
      push Not at onlySlashes
      exact deeper ⟨rest, follows, onlySlashes⟩

end Objects

/-! A file store, for locations with one slash or three. -/

@[reducible] def fileUrls : LocationUrls :=
  ⟨fun text => (stripHead text "file:").map fun rest =>
    ⟨"file", "", none, none, none, (stripHead rest "//").getD rest, none, none⟩⟩

@[reducible] def fileObjects : ObjectStores where
  bucket _ := []
  objectPath url :=
    if (pathSegments url.path).any fun segment => segment = toBytes "." || segment = toBytes ".."
    then .error "relative segment"
    else .ok (pathSegments url.path)
  buildError _ := none
  parseError text := text

theorem fileObjects_documented :
    let _ := fileObjects
    ObjectStores.Documented := by
  intro _
  have named : ∀ (url : LocationUrl) path, ObjectStores.objectPath url = .ok path →
      path = pathSegments url.path ∧
      ∀ segment ∈ path, segment ≠ toBytes "." ∧ segment ≠ toBytes ".." := by
    intro url path opened
    change (if _ then _ else _) = _ at opened
    split at opened
    · cases opened
    next plain =>
      obtain rfl := Except.ok.inj opened
      refine ⟨rfl, ?_⟩
      simpa using plain
  exact ⟨fun url path opened => (List.nil_append path).trans (named url path opened).1,
    fun url path opened => (named url path opened).2⟩

end LakeCat
