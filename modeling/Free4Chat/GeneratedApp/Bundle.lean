import Free4Chat.Data.JsValue
import Free4Chat.Data.KeyedMap

/-!
# Generated App Bundles

The wire contract of an App that an Agent generates: what a bundle may contain, what a shared
state may be, and how large both may get. The serialization of JSON values is a parameter.

* `JsonCodec`: the serialization of JSON values to bytes, and the parsing of bytes.
* `ValidBundle`: a bundle that passed validation, with its serialization.
* `validateGeneratedRoomAppBundle` and `validateGeneratedRoomAppState`: the two validators.
* `validateGeneratedRoomAppBundle_bundle`: a valid bundle passes validation again.
-/

namespace Free4Chat

def MAX_GENERATED_APPS_PER_ROOM : ℕ := 4
def MAX_GENERATED_APP_BUNDLE_BYTES : ℕ := 48 * 1024
def MAX_GENERATED_APP_STATE_BYTES : ℕ := 16 * 1024
def MAX_GENERATED_APP_UPDATE_BYTES : ℕ := 4 * 1024
def GENERATED_APP_STATE_WINDOW_MS : ℕ := 10 * 1000
def GENERATED_APP_STATE_MAX_MUTATIONS_PER_WINDOW : ℕ := 40
def GENERATED_APP_STATE_MAX_BYTES_PER_WINDOW : ℕ := 64 * 1024
def GENERATED_APP_CHUNK_SIZE : ℕ := 16 * 1024
def MAX_TITLE_LENGTH : ℕ := 80
def MAX_HTML_LENGTH : ℕ := 20 * 1024
def MAX_CSS_LENGTH : ℕ := 12 * 1024
def MAX_JS_LENGTH : ℕ := 32 * 1024

/-- The serialization of JSON values. -/
structure JsonCodec where
  -- The UTF-8 bytes of the JSON text of a value.
  stringify : JsValue → Option (List UInt8)
  -- The value that UTF-8 bytes are the JSON text of.
  parse : List UInt8 → Option JsValue

/-- Parsing a serialized value gives the value back. -/
def JsonCodec.RoundTrips (codec : JsonCodec) : Prop :=
  ∀ value bytes, codec.stringify value = some bytes → codec.parse bytes = some value

/-! ## Text -/

/-- The characters of a title: no angle bracket and no control character. -/
def isSafeTitle (title : String) : Bool :=
  title.toList.all fun c => c ≠ '<' && c ≠ '>' && 0x20 ≤ c.toNat && c.toNat ≠ 0x7F

/-- The characters that end a word boundary on their right. -/
def isWordChar (c : Char) : Bool := c.isAlphanum || c = '_'

/-- Whether a text begins with one of the sources that an App may not contain. -/
def startsForbidden (text : List Char) : Bool :=
  "\x00".toList.isPrefixOf text || "</script".toList.isPrefixOf text ||
    "javascript:".toList.isPrefixOf text ||
    ["<iframe", "<object", "<embed"].any fun tag =>
      tag.toList.isPrefixOf text && !((text.drop tag.length).head?.any isWordChar)

/-- Whether a value is source text of a bounded length, without anything that an App may not
contain in any letter case. -/
def safeSource (value : JsValue) (maxLength : ℕ) : Bool :=
  match value with
  | .str source =>
    source ≠ "" && JsString.utf16Length source ≤ maxLength &&
      !((source.toList.map Char.toLower).tails.any startsForbidden)
  | _ => false

/-- Whether an object has exactly the given properties. -/
def hasOnlyKeys (value : JsValue) (keys : List String) : Bool :=
  match value with
  | .obj entries => (entries.map Prod.fst).isPerm keys
  | _ => false

/-! ## Validation -/

section Validation

variable (codec : JsonCodec)

/-- Number of bytes of a serialized value. -/
def serializedBytes (value : JsValue) : Option ℕ := (codec.stringify value).map List.length

/-- Whether a value is an object that is not too large. -/
def safeJsonObject (value : JsValue) (maxBytes : ℕ) : Bool :=
  value.asRecord?.isSome && (serializedBytes codec value).any (· ≤ maxBytes)

/-- Whether a value is the title of an App. -/
def isTitle (value : JsValue) : Bool :=
  match value with
  | .str title => title ≠ "" && JsString.utf16Length title ≤ MAX_TITLE_LENGTH && isSafeTitle title
  | _ => false

/-- Whether a value is the empty array. -/
def isEmptyArray (value : JsValue) : Bool :=
  match value with
  | .arr [] => true
  | _ => false

/-- Whether an object has the fields of a bundle. -/
def isBundleShaped (value : JsValue) : Bool :=
  hasOnlyKeys value ["version", "manifest", "html", "css", "js", "initialState"] &&
    (value.get "version").asSafeInteger? = some 1 &&
    hasOnlyKeys (value.get "manifest") ["title", "networkOrigins"] &&
    isTitle ((value.get "manifest").get "title") &&
    isEmptyArray ((value.get "manifest").get "networkOrigins") &&
    safeSource (value.get "html") MAX_HTML_LENGTH &&
    safeSource (value.get "css") MAX_CSS_LENGTH &&
    safeSource (value.get "js") MAX_JS_LENGTH &&
    safeJsonObject codec (value.get "initialState") MAX_GENERATED_APP_STATE_BYTES

/-- A bundle that passed validation. -/
structure ValidBundle where
  bundle : JsValue
  encoded : List UInt8
  shaped : isBundleShaped codec bundle = true
  stringify : codec.stringify bundle = some encoded
  size_le : encoded.length ≤ MAX_GENERATED_APP_BUNDLE_BYTES

/-- Validates a bundle. -/
def validateGeneratedRoomAppBundle (value : JsValue) : Except String (ValidBundle codec) :=
  if value.asRecord?.isNone then .error "generated_app_bundle_object"
  else if hshaped : isBundleShaped codec value = true then
    match hstringify : codec.stringify value with
    | none => .error "generated_app_bundle_too_large"
    | some encoded =>
      if hsize : encoded.length ≤ MAX_GENERATED_APP_BUNDLE_BYTES then
        .ok ⟨value, encoded, hshaped, hstringify, hsize⟩
      else .error "generated_app_bundle_too_large"
  else .error "generated_app_bundle_invalid"

/-- Validates a shared state. -/
def validateGeneratedRoomAppState (value : JsValue) : Except String JsValue :=
  if safeJsonObject codec value MAX_GENERATED_APP_STATE_BYTES then .ok value
  else .error "generated_app_state_invalid"

variable {codec}

/-- The title of a valid bundle. -/
def ValidBundle.title (valid : ValidBundle codec) : String :=
  ((valid.bundle.get "manifest").get "title").asString?.getD ""

lemma validateGeneratedRoomAppBundle_bundle (valid : ValidBundle codec) :
    validateGeneratedRoomAppBundle codec valid.bundle = .ok valid := by
  obtain ⟨bundle, encoded, hshaped, hstringify, hsize⟩ := valid
  have hrecord : bundle.asRecord?.isNone = false := by
    cases bundle with
    | obj entries => rfl
    | _ => simp [isBundleShaped, hasOnlyKeys] at hshaped
  unfold validateGeneratedRoomAppBundle
  rw [if_neg (by simp [hrecord]), dif_pos hshaped]
  split
  · rename_i hnone
    exact nomatch hnone.symm.trans hstringify
  · rename_i encoded' hsome
    obtain rfl := Option.some.inj (hsome.symm.trans hstringify)
    rw [dif_pos hsize]

end Validation

end Free4Chat
