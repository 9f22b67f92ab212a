import Reshape.Builtin.Function
import Reshape.Catalog.Basic

/-! What the catalog tells of each function. -/

namespace Reshape

/-- Notes on `deleted`. -/
def Function.deletedNotes : Notes :=
  .pure .general
    "Removes the target of the assignment."
    ("Assigning `deleted()` to a field removes it, to a metadata key removes the key " ++
      "and to `root` drops the message. Inside arrays and objects the element is left " ++
      "out.") [
      ⟨"Drop a sensitive field.",
       "root = this\nroot.password = deleted()",
       [("\x7b\"user\":\"ada\",\"password\":\"x\"\x7d", "\x7b\"user\":\"ada\"\x7d")], true⟩,
      ⟨"Leave elements out of a literal.",
       "root.items = [1, deleted(), 3]",
       [("\x7b\x7d", "\x7b\"items\":[1,3]\x7d")], true⟩]

/-- Notes on `nothing`. -/
def Function.nothingNotes : Notes :=
  .pure .general
    "Leaves the target of the assignment unchanged."
    "" [
      ⟨"Only overwrite a field when a condition holds.",
       ("root = this\nroot.name = if this.name == \"\" \x7b nothing() \x7d else \x7b " ++
        "this.name.uppercase() \x7d"),
       [("\x7b\"name\":\"\"\x7d", "\x7b\"name\":\"\"\x7d"),
        ("\x7b\"name\":\"ada\"\x7d", "\x7b\"name\":\"ADA\"\x7d")], true⟩]

/-- Notes on `throw`. -/
def Function.throwNotes : Notes :=
  .pure .general
    "Fails the mapping with a message."
    "" [
      ⟨"Reject documents that are not ready.",
       ("root.doc = if this.ready \x7b this \x7d else \x7b throw(\"document is not " ++
        "ready\") \x7d"),
       [("\x7b\"ready\":true\x7d", "\x7b\"doc\":\x7b\"ready\":true\x7d\x7d"),
        ("\x7b\"ready\":false\x7d", "Error(document is not ready)")], true⟩]

/-- Notes on `range`. -/
def Function.rangeNotes : Notes :=
  .pure .general
    "Creates an array of integers."
    ("Counts from `start` up to, but not including, `stop` in increments of `step`. A " ++
      "range may hold at most one million elements.") [
      ⟨"Count upwards.",
       "root.r = range(0, 5)",
       [("\x7b\x7d", "\x7b\"r\":[0,1,2,3,4]\x7d")], true⟩,
      ⟨"Count down with named arguments.",
       "root.r = range(start: 10, stop: 0, step: -3)",
       [("\x7b\x7d", "\x7b\"r\":[10,7,4,1]\x7d")], true⟩]

/-- Notes on `var`. -/
def Function.varNotes : Notes :=
  .pure .general
    "Reads a variable by name."
    "Returns `null` when the variable has not been assigned." [
      ⟨"Pick a variable by a computed name.",
       "let greeting = \"hello\"\nroot.out = var(\"greet\" + \"ing\")",
       [("\x7b\x7d", "\x7b\"out\":\"hello\"\x7d")], true⟩]

/-- Notes on `content`. -/
def Function.contentNotes : Notes :=
  .pure .message
    "Returns the raw bytes of the message."
    "" [
      ⟨"Keep the original payload as a string.",
       "root.original = content().string()",
       [("\x7b\"a\":1\x7d", "\x7b\"original\":\"\x7b\\\"a\\\":1\x7d\"\x7d")], true⟩]

/-- Notes on `json`. -/
def Function.jsonNotes : Notes :=
  .pure .message
    "Reads the message parsed as JSON."
    ("Reads the original message rather than the current context, so it is unaffected " ++
      "by narrowing inside methods. A dot path selects a nested field.") [
      ⟨"Read a field of the original message.",
       "root.names = this.items.map_each(item -> item.name + json(\"suffix\"))",
       [(("\x7b\"suffix\":\"!\",\"items\":[\x7b\"name\":\"a\"\x7d," ++
          "\x7b\"name\":\"b\"\x7d]\x7d"), "\x7b\"names\":[\"a!\",\"b!\"]\x7d")], true⟩]

/-- Notes on `meta`. -/
def Function.incomingNotes : Notes :=
  .pure .message
    "Reads metadata of the original message."
    ("Changes made by earlier `meta` assignments are not visible here, use `metadata` " ++
      "or `@` for those. Without a key every key is returned as an object.") [
      ⟨"Default a missing key.",
       "root.topic = meta(\"topic\") | \"unknown\"",
       [("\x7b\x7d", "\x7b\"topic\":\"unknown\"\x7d")], true⟩]

/-- Notes on `metadata`. -/
def Function.workingNotes : Notes :=
  .pure .message
    "Reads the working metadata."
    "Sees earlier `meta` assignments. Equivalent to `@key`, or `@` without a key." [
      ⟨"Read back an assigned key.",
       "meta kind = \"user\"\nroot.kind = metadata(\"kind\")\nroot.all = metadata()",
       [("\x7b\x7d", "\x7b\"kind\":\"user\",\"all\":\x7b\"kind\":\"user\"\x7d\x7d")], true⟩]

/-- Notes on `batch_index`. -/
def Function.batchIndexNotes : Notes :=
  .pure .message
    "Position of the message in its batch."
    "" [
      ⟨"Tag messages with their position.",
       "root = this\nroot.position = batch_index()",
       [("\x7b\"a\":1\x7d", "\x7b\"a\":1,\"position\":0\x7d")], true⟩]

/-- Notes on `batch_size`. -/
def Function.batchSizeNotes : Notes :=
  .pure .message
    "Number of messages in the batch."
    "" [
      ⟨"Record the batch size.",
       "root.size = batch_size()",
       [("\x7b\x7d", "\x7b\"size\":1\x7d")], true⟩]

/-- Notes on `tracing_id`. -/
def Function.tracingIdNotes : Notes :=
  .pure .message
    "The trace id of the message, or `null`."
    "" [
      ⟨"Untraced messages have no id.",
       "root.trace = tracing_id()",
       [("\x7b\x7d", "\x7b\"trace\":null\x7d")], true⟩]

/-- Notes on `tracing_span`. -/
def Function.tracingSpanNotes : Notes :=
  .pure .message
    "The propagation headers of the message trace span as an object, or `null`."
    "" [
      ⟨"Untraced messages have no span.",
       "root.span = tracing_span()",
       [("\x7b\x7d", "\x7b\"span\":null\x7d")], true⟩]

/-- Notes on `env`. -/
def Function.envNotes : Notes :=
  .impure .environment
    "Reads an environment variable."
    "Returns `null` when the variable is not set." [
      ⟨"Fall back when a variable is unset.",
       "root.region = env(\"MAPLING_EXAMPLE_UNSET\") | \"local\"",
       [("\x7b\x7d", "\x7b\"region\":\"local\"\x7d")], true⟩]

/-- Notes on `now`. -/
def Function.nowNotes : Notes :=
  .impure .environment
    "The current time as an RFC 3339 string."
    "" [
      ⟨"Stamp a document.",
       "root.at = now()",
       [("\x7b\x7d", "\x7b\"at\":\"2024-03-01T12:00:00.000000000+00:00\"\x7d")], false⟩,
      ⟨"The result is a string.",
       "root.ok = now().type() == \"string\"",
       [("\x7b\x7d", "\x7b\"ok\":true\x7d")], true⟩]

/-- Notes on `timestamp_unix`. -/
def Function.timestampUnixNotes : Notes :=
  .impure .environment
    "The current Unix time in seconds."
    "" [
      ⟨"Seconds since the epoch.",
       "root.ok = timestamp_unix() > 1600000000",
       [("\x7b\x7d", "\x7b\"ok\":true\x7d")], true⟩]

/-- Notes on `uuid_v4`. -/
def Function.uuidNotes : Notes :=
  .impure .environment
    "Generates a random version 4 UUID."
    "" [
      ⟨"Identifiers are 36 characters long.",
       "root.len = uuid_v4().length()",
       [("\x7b\x7d", "\x7b\"len\":36\x7d")], true⟩]

/-- Notes on `counter`. -/
def Function.counterNotes : Notes :=
  .impure .stateful
    "Returns an incrementing integer."
    ("Counts from `min` up to and including `max`, then starts over at `min`. `min` and " ++
      "`max` are resolved once, on the first call. When `set` is given it is evaluated " ++
      "on every call: `nothing()` returns the current value without counting, " ++
      "`deleted()` restarts the count at `min`, `null` counts normally and any other " ++
      "integer becomes the new value.") [
      ⟨"Number messages.",
       "root = this\nroot.id = counter()",
       [("\x7b\"a\":\"x\"\x7d", "\x7b\"a\":\"x\",\"id\":1\x7d"),
        ("\x7b\"a\":\"y\"\x7d", "\x7b\"a\":\"y\",\"id\":2\x7d")], true⟩,
      ⟨"Cycle through a bounded range.",
       "root.n = counter(min: 100, max: 102)",
       [("\x7b\x7d", "\x7b\"n\":100\x7d"),
        ("\x7b\x7d", "\x7b\"n\":101\x7d"),
        ("\x7b\x7d", "\x7b\"n\":102\x7d"),
        ("\x7b\x7d", "\x7b\"n\":100\x7d")], true⟩,
      ⟨"Peek or reset on demand.",
       ("root.n = counter(set: if this.peek == true \x7b nothing() \x7d else if " ++
        "this.reset == true \x7b deleted() \x7d else \x7b null \x7d)"),
       [("\x7b\x7d", "\x7b\"n\":1\x7d"),
        ("\x7b\x7d", "\x7b\"n\":2\x7d"),
        ("\x7b\"peek\":true\x7d", "\x7b\"n\":2\x7d"),
        ("\x7b\"reset\":true\x7d", "\x7b\"n\":1\x7d"),
        ("\x7b\x7d", "\x7b\"n\":2\x7d")], true⟩]

/-- Notes on `random_int`. -/
def Function.randomIntNotes : Notes :=
  .impure .stateful
    "Generates a pseudo-random integer."
    ("Draws uniformly from `[min, max]`. The generator is seeded once, from the first " ++
      "evaluation of `seed`, so equal seeds produce equal sequences.") [
      ⟨"Roll a die.",
       "root.ok = random_int(seed: 7, min: 1, max: 6) <= 6",
       [("\x7b\x7d", "\x7b\"ok\":true\x7d")], true⟩,
      ⟨"The largest 64 bit integer is reserved.",
       "root.n = random_int(max: 9223372036854775807)",
       [("\x7b\x7d", "Error(max must be less than)")], false⟩]

/-- Notes on `count`. -/
def Function.countNotes : Notes :=
  { Notes.impure .stateful
    "Increments a counter shared by name."
    ("Every mapping compiled from the same environment shares the counter `name`. " ++
      "Prefer `counter`, which keeps its state per call site.") [
      ⟨"Count documents seen.",
       "root.seen = count(\"documents_seen_example\")",
       [("\x7b\x7d", "\x7b\"seen\":1\x7d"),
        ("\x7b\x7d", "\x7b\"seen\":2\x7d")], false⟩] with
    status := .deprecated }

/-- Notes on a function of the application. -/
def Function.applicationNotes : Notes :=
  .impure .general "" "" []

/-- What the catalog tells of a function. -/
def Function.notes : Function → Notes
  | .deleted => Function.deletedNotes
  | .nothing => Function.nothingNotes
  | .throw => Function.throwNotes
  | .range => Function.rangeNotes
  | .var => Function.varNotes
  | .content => Function.contentNotes
  | .json => Function.jsonNotes
  | .incoming => Function.incomingNotes
  | .working => Function.workingNotes
  | .batchIndex => Function.batchIndexNotes
  | .batchSize => Function.batchSizeNotes
  | .tracingId => Function.tracingIdNotes
  | .tracingSpan => Function.tracingSpanNotes
  | .env => Function.envNotes
  | .now => Function.nowNotes
  | .timestampUnix => Function.timestampUnixNotes
  | .uuid => Function.uuidNotes
  | .counter => Function.counterNotes
  | .randomInt => Function.randomIntNotes
  | .count => Function.countNotes
  | .constant .. | .failing .. => Function.applicationNotes

end Reshape
