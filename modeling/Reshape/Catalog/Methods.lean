import Reshape.Builtin.Method
import Reshape.Catalog.Basic

/-! What the catalog tells of each method. -/

namespace Reshape

/-- Notes on `type`. -/
def Method.typeNotes : Notes :=
  .pure .general
    "Returns the type name of a value."
    "" [
      ⟨"Inspect field types.",
       "root.a = this.a.type()\nroot.b = this.b.type()\nroot.c = this.c.type()",
       [("\x7b\"a\":1,\"b\":\"x\",\"c\":[1]\x7d",
         "\x7b\"a\":\"number\",\"b\":\"string\",\"c\":\"array\"\x7d")], true⟩]

/-- Notes on `not_null`. -/
def Method.notNullNotes : Notes :=
  .pure .general
    "Fails when the value is `null`."
    "" [
      ⟨"Require a field.",
       "root.id = this.id.not_null()",
       [("\x7b\"id\":\"a1\"\x7d", "\x7b\"id\":\"a1\"\x7d"),
        ("\x7b\x7d", "Error(value is null)")], true⟩]

/-- Notes on `or`. -/
def Method.orNotes : Notes :=
  .pure .general
    "Falls back when the target is `null` or fails."
    "" [
      ⟨"Default a missing field.",
       "root.name = this.name.or(\"anonymous\")",
       [("\x7b\"name\":\"ada\"\x7d", "\x7b\"name\":\"ada\"\x7d"),
        ("\x7b\x7d", "\x7b\"name\":\"anonymous\"\x7d")], true⟩]

/-- Notes on `catch`. -/
def Method.catchNotes : Notes :=
  .pure .general
    "Falls back when the target fails."
    "Unlike `or`, a `null` result is kept." [
      ⟨"Recover from a parse failure.",
       "root.doc = this.raw.parse_json().catch(\x7b\"valid\": false\x7d)",
       [("\x7b\"raw\":\"\x7b\\\"valid\\\":true\x7d\"\x7d",
         "\x7b\"doc\":\x7b\"valid\":true\x7d\x7d"),
        ("\x7b\"raw\":\"nope\"\x7d", "\x7b\"doc\":\x7b\"valid\":false\x7d\x7d")], true⟩]

/-- Notes on `bool`. -/
def Method.boolNotes : Notes :=
  .pure .coercion
    "Converts a value into a boolean."
    ("Accepts booleans, the strings `true` and `false`, and numbers (non-zero is true). " ++
      "Other values fail unless a default is given.") [
      ⟨"Coerce flags.",
       "root.a = this.a.bool()\nroot.b = this.b.bool()\nroot.c = this.c.bool(false)",
       [("\x7b\"a\":\"true\",\"b\":0,\"c\":\"maybe\"\x7d",
         "\x7b\"a\":true,\"b\":false,\"c\":false\x7d")], true⟩]

/-- Notes on `not_empty`. -/
def Method.notEmptyNotes : Notes :=
  .pure .general
    "Fails when a string, array or object is empty."
    "" [
      ⟨"Require at least one tag.",
       "root.tags = this.tags.not_empty()",
       [("\x7b\"tags\":[\"a\"]\x7d", "\x7b\"tags\":[\"a\"]\x7d"),
        ("\x7b\"tags\":[]\x7d", "Error(must not be empty)")], true⟩]

/-- Notes on `ceil`. -/
def Method.ceilNotes : Notes :=
  .pure .numbers
    "Rounds a number up to the nearest integer."
    ("Integers are returned unchanged. A rounded float becomes an integer when it fits " ++
      "a signed 64 bit integer, otherwise it stays a float.") [
      ⟨"Round up.",
       "root.a = this.a.ceil()\nroot.b = this.b.ceil()",
       [("\x7b\"a\":5.3,\"b\":-5.9\x7d", "\x7b\"a\":6,\"b\":-5\x7d")], true⟩]

/-- Notes on `floor`. -/
def Method.floorNotes : Notes :=
  .pure .numbers
    "Rounds a number down to the nearest integer."
    ("Integers are returned unchanged. A rounded float becomes an integer when it fits " ++
      "a signed 64 bit integer, otherwise it stays a float.") [
      ⟨"Round down.",
       "root.a = this.a.floor()\nroot.b = this.b.floor()",
       [("\x7b\"a\":5.7,\"b\":-5.1\x7d", "\x7b\"a\":5,\"b\":-6\x7d")], true⟩]

/-- Notes on `round`. -/
def Method.roundNotes : Notes :=
  .pure .numbers
    "Rounds a number to the nearest integer, halves away from zero."
    ("Integers are returned unchanged. A rounded float becomes an integer when it fits " ++
      "a signed 64 bit integer, otherwise it stays a float.") [
      ⟨"Round to the nearest integer.",
       "root.a = this.a.round()\nroot.b = this.b.round()\nroot.huge = this.huge.round()",
       [("\x7b\"a\":5.5,\"b\":5.4,\"huge\":1e300\x7d",
         "\x7b\"a\":6,\"b\":5,\"huge\":1e300\x7d")], true⟩]

/-- Notes on `abs`. -/
def Method.absNotes : Notes :=
  .pure .numbers
    "Returns the absolute value of a number."
    "" [
      ⟨"Distance from zero.",
       "root.a = this.a.abs()\nroot.b = this.b.abs()",
       [("\x7b\"a\":-5,\"b\":-2.5\x7d", "\x7b\"a\":5,\"b\":2.5\x7d")], true⟩]

/-- Notes on `number`. -/
def Method.numberNotes : Notes :=
  .pure .coercion
    "Converts a value into a number."
    ("Numbers are returned unchanged and strings are parsed. Other values fail unless a " ++
      "default is given.") [
      ⟨"Parse numeric strings.",
       "root.a = this.a.number()\nroot.b = this.b.number(0)",
       [("\x7b\"a\":\"12.5\",\"b\":\"n/a\"\x7d", "\x7b\"a\":12.5,\"b\":0\x7d")], true⟩,
      ⟨"Unparseable values fail without a default.",
       "root.a = this.a.number()",
       [("\x7b\"a\":\"twelve\"\x7d", "Error(expected number value)")], true⟩]

/-- Notes on `int64`. -/
def Method.int64Notes : Notes :=
  .pure .coercion
    "Converts a value into a signed 64 bit integer."
    "Strings are parsed. Fails when the conversion would lose information." [
      ⟨"Integral floats convert, fractional ones fail.",
       "root.a = this.a.int64()\nroot.b = this.b.int64()",
       [("\x7b\"a\":\"-7\",\"b\":3.0\x7d", "\x7b\"a\":-7,\"b\":3\x7d"),
        ("\x7b\"a\":1,\"b\":3.5\x7d", "Error(cannot be represented as int64)")], true⟩]

/-- Notes on `uint64`. -/
def Method.uint64Notes : Notes :=
  .pure .coercion
    "Converts a value into an unsigned 64 bit integer."
    "Strings are parsed. Fails for negative or fractional numbers." [
      ⟨"Convert to unsigned.",
       "root.a = this.a.uint64()",
       [("\x7b\"a\":\"18446744073709551615\"\x7d", "\x7b\"a\":18446744073709551615\x7d"),
        ("\x7b\"a\":-1\x7d", "Error(cannot be represented as uint64)")], true⟩]

/-- Notes on `float64`. -/
def Method.float64Notes : Notes :=
  .pure .coercion
    "Converts a value into a 64 bit float."
    "" [
      ⟨"Parse a float.",
       "root.a = this.a.float64()\nroot.half = this.b.float64() / 2",
       [("\x7b\"a\":\"2.25\",\"b\":5\x7d", "\x7b\"a\":2.25,\"half\":2.5\x7d")], true⟩]

/-- Notes on `uppercase`. -/
def Method.uppercaseNotes : Notes :=
  .pure .strings
    "Converts text to upper case."
    "" [
      ⟨"Shout.",
       "root.a = this.a.uppercase()",
       [("\x7b\"a\":\"hello world\"\x7d", "\x7b\"a\":\"HELLO WORLD\"\x7d")], true⟩]

/-- Notes on `lowercase`. -/
def Method.lowercaseNotes : Notes :=
  .pure .strings
    "Converts text to lower case."
    "" [
      ⟨"Normalise an address.",
       "root.email = this.email.lowercase()",
       [("\x7b\"email\":\"Ada@Example.COM\"\x7d", "\x7b\"email\":\"ada@example.com\"\x7d")], true⟩]

/-- Notes on `trim`. -/
def Method.trimNotes : Notes :=
  .pure .strings
    "Removes leading and trailing whitespace."
    "" [
      ⟨"Clean up input.",
       "root.name = this.name.trim()",
       [("\x7b\"name\":\"  ada \\n\"\x7d", "\x7b\"name\":\"ada\"\x7d")], true⟩]

/-- Notes on `capitalize`. -/
def Method.capitalizeNotes : Notes :=
  .pure .strings
    "Upper-cases the first character."
    "" [
      ⟨"Capitalise a title.",
       "root.title = this.title.capitalize()",
       [("\x7b\"title\":\"émile zola\"\x7d", "\x7b\"title\":\"Émile zola\"\x7d")], true⟩]

/-- Notes on `length`. -/
def Method.lengthNotes : Notes :=
  .pure .strings
    "Length of text, an array or an object."
    ("Strings count characters, bytes count bytes, arrays count elements and objects " ++
      "count keys.") [
      ⟨"Measure values.",
       "root.s = this.s.length()\nroot.a = this.a.length()\nroot.o = this.o.length()",
       [("\x7b\"s\":\"héllo\",\"a\":[1,2],\"o\":\x7b\"x\":1\x7d\x7d",
         "\x7b\"s\":5,\"a\":2,\"o\":1\x7d")], true⟩]

/-- Notes on `contains`. -/
def Method.containsNotes : Notes :=
  .pure .strings
    "Checks for a substring or an array element."
    "" [
      ⟨"Search text and arrays.",
       "root.text = this.text.contains(\"wor\")\nroot.tags = this.tags.contains(\"b\")",
       [("\x7b\"text\":\"hello world\",\"tags\":[\"a\",\"b\"]\x7d",
         "\x7b\"text\":true,\"tags\":true\x7d")], true⟩]

/-- Notes on `has_prefix`. -/
def Method.hasPrefixNotes : Notes :=
  .pure .strings
    "Checks whether text starts with a prefix."
    "" [
      ⟨"Detect a scheme.",
       "root.secure = this.url.has_prefix(\"https://\")",
       [("\x7b\"url\":\"https://example.com\"\x7d", "\x7b\"secure\":true\x7d")], true⟩]

/-- Notes on `has_suffix`. -/
def Method.hasSuffixNotes : Notes :=
  .pure .strings
    "Checks whether text ends with a suffix."
    "" [
      ⟨"Detect a file type.",
       "root.json = this.file.has_suffix(\".json\")",
       [("\x7b\"file\":\"doc.yaml\"\x7d", "\x7b\"json\":false\x7d")], true⟩]

/-- Notes on `replace_all`. -/
def Method.replaceAllNotes : Notes :=
  .pure .strings
    "Replaces every occurrence of a substring."
    "" [
      ⟨"Swap separators.",
       "root.path = this.path.replace_all(\"/\", \".\")",
       [("\x7b\"path\":\"a/b/c\"\x7d", "\x7b\"path\":\"a.b.c\"\x7d")], true⟩]

/-- Notes on `split`. -/
def Method.splitNotes : Notes :=
  .pure .strings
    "Splits text on a delimiter."
    "An empty delimiter splits into single characters." [
      ⟨"Split a CSV line.",
       "root.fields = this.line.split(\",\")",
       [("\x7b\"line\":\"a,b,,c\"\x7d", "\x7b\"fields\":[\"a\",\"b\",\"\",\"c\"]\x7d")], true⟩]

/-- Notes on `reverse`. -/
def Method.reverseNotes : Notes :=
  .pure .strings
    "Reverses text or an array."
    "" [
      ⟨"Reverse both kinds.",
       "root.s = this.s.reverse()\nroot.a = this.a.reverse()",
       [("\x7b\"s\":\"abc\",\"a\":[1,2,3]\x7d", "\x7b\"s\":\"cba\",\"a\":[3,2,1]\x7d")], true⟩]

/-- Notes on `slice`. -/
def Method.sliceNotes : Notes :=
  .pure .strings
    "Extracts a range of text or an array."
    ("Takes the elements from `low` up to, but not including, `high`. Negative bounds " ++
      "count back from the end and a missing `high` means the end.") [
      ⟨"Take prefixes and suffixes.",
       ("root.head = this.s.slice(0, 3)\nroot.tail = this.s.slice(-2)\nroot.items = " ++
        "this.a.slice(1)"),
       [("\x7b\"s\":\"foobar\",\"a\":[1,2,3]\x7d",
         "\x7b\"head\":\"foo\",\"tail\":\"ar\",\"items\":[2,3]\x7d")], true⟩,
      ⟨"Bounds must be ordered.",
       "root.s = this.s.slice(4, 2)",
       [("\x7b\"s\":\"foobar\"\x7d", "Error(lower slice bound 4)")], true⟩]

/-- Notes on `string`. -/
def Method.stringNotes : Notes :=
  .pure .coercion
    "Converts a value into a string."
    "Bytes are decoded as UTF-8, other non-string values are serialised as JSON." [
      ⟨"Stringify anything.",
       "root.n = this.n.string()\nroot.o = this.o.string()",
       [("\x7b\"n\":5,\"o\":\x7b\"a\":[1]\x7d\x7d",
         "\x7b\"n\":\"5\",\"o\":\"\x7b\\\"a\\\":[1]\x7d\"\x7d")], true⟩]

/-- Notes on `bytes`. -/
def Method.bytesNotes : Notes :=
  .pure .coercion
    "Converts a value into bytes."
    "Strings are encoded as UTF-8, other values are serialised as JSON." [
      ⟨"Byte length differs from character length.",
       "root.len = this.s.bytes().length()",
       [("\x7b\"s\":\"héllo\"\x7d", "\x7b\"len\":6\x7d")], true⟩]

/-- Notes on `format`. -/
def Method.formatNotes : Notes :=
  .pure .strings
    "Interpolates arguments into a template."
    ("The target is the template. `%v` and `%s` insert any value, `%d` inserts an " ++
      "integer and `%%` is a literal percent sign. The number of arguments must match " ++
      "the template.") [
      ⟨"Build a sentence.",
       "root.msg = \"%s is %d years old (%v%%)\".format(this.name, this.age, 100)",
       [("\x7b\"name\":\"Ada\",\"age\":36\x7d",
         "\x7b\"msg\":\"Ada is 36 years old (100%)\"\x7d")], true⟩,
      ⟨"Missing arguments fail.",
       "root.msg = \"%s and %s\".format(\"one\")",
       [("\x7b\x7d", "Error(format string needs more than 1 arguments)")], true⟩]

/-- Notes on `quote`. -/
def Method.quoteNotes : Notes :=
  .pure .strings
    "Quotes and escapes text as a JSON string."
    "" [
      ⟨"Embed text in a literal.",
       "root.q = this.s.quote()",
       [("\x7b\"s\":\"say \\\"hi\\\"\"\x7d",
         "\x7b\"q\":\"\\\"say \\\\\\\"hi\\\\\\\"\\\"\"\x7d")], true⟩]

/-- Notes on `hash`. -/
def Method.hashNotes : Notes :=
  .pure .encoding
    "Hashes text with a SHA-2 algorithm."
    ("Supported algorithms are `sha224`, `sha256`, `sha384` and `sha512`. The digest is " ++
      "returned as bytes.") [
      ⟨"Fingerprint a value.",
       "root.h = this.s.hash(\"sha256\").encode(\"hex\")",
       [("\x7b\"s\":\"hello\"\x7d",
         "\x7b\"h\":\"2cf24dba5fb0a30e26e83b2ac5b9e29e1b161e5c1fa7425e73043362938b9824\"\x7d")],
       true⟩]

/-- Notes on `encode`. -/
def Method.encodeNotes : Notes :=
  .pure .encoding
    "Encodes text with a binary-to-text scheme."
    "Schemes: `base64`, `base64url`, `base64rawurl` (no padding) and `hex`." [
      ⟨"Encode as base64.",
       "root.b64 = this.s.encode(\"base64\")\nroot.hex = this.s.encode(\"hex\")",
       [("\x7b\"s\":\"hello world\"\x7d",
         "\x7b\"b64\":\"aGVsbG8gd29ybGQ=\",\"hex\":\"68656c6c6f20776f726c64\"\x7d")], true⟩]

/-- Notes on `decode`. -/
def Method.decodeNotes : Notes :=
  .pure .encoding
    "Decodes text encoded with a binary-to-text scheme."
    "Accepts the same schemes as `encode`. The result is bytes." [
      ⟨"Decode base64.",
       "root.s = this.b64.decode(\"base64\").string()",
       [("\x7b\"b64\":\"aGVsbG8gd29ybGQ=\"\x7d", "\x7b\"s\":\"hello world\"\x7d"),
        ("\x7b\"b64\":\"!!\"\x7d", "Error(failed to decode)")], true⟩]

/-- Notes on `parse_json`. -/
def Method.parseJsonNotes : Notes :=
  .pure .encoding
    "Parses text as a JSON document."
    "" [
      ⟨"Unpack an embedded document.",
       "root.doc = this.raw.parse_json()",
       [("\x7b\"raw\":\"\x7b\\\"a\\\":[1,2]\x7d\"\x7d",
         "\x7b\"doc\":\x7b\"a\":[1,2]\x7d\x7d"),
        ("\x7b\"raw\":\"\x7b\"\x7d", "Error(failed to parse JSON)")], true⟩]

/-- Notes on `format_json`. -/
def Method.formatJsonNotes : Notes :=
  .pure .encoding
    "Serialises a value as a JSON string."
    "Pretty prints with `indent` unless `no_indent` is set." [
      ⟨"Compact and indented output.",
       ("root.compact = this.doc.format_json(no_indent: true)\nroot.pretty = " ++
        "this.doc.format_json(\"  \")"),
       [("\x7b\"doc\":\x7b\"a\":1\x7d\x7d",
         ("\x7b\"compact\":\"\x7b\\\"a\\\":1\x7d\",\"pretty\":\"\x7b\\n  \\\"a\\\": " ++
          "1\\n\x7d\"\x7d"))], true⟩]

/-- Notes on `re_match`. -/
def Method.reMatchNotes : Notes :=
  .pure .regex
    "Checks whether a pattern matches anywhere in text."
    "" [
      ⟨"Validate an identifier.",
       "root.valid = this.id.re_match(\"^[a-z]+-[0-9]+$\")",
       [("\x7b\"id\":\"order-42\"\x7d", "\x7b\"valid\":true\x7d"),
        ("\x7b\"id\":\"Order 42\"\x7d", "\x7b\"valid\":false\x7d")], true⟩,
      ⟨"Patterns are checked when the mapping is parsed.",
       "root.valid = this.id.re_match(\"(\")",
       [("\x7b\x7d", "Error(invalid regular expression)")], false⟩]

/-- Notes on `re_find_all`. -/
def Method.reFindAllNotes : Notes :=
  .pure .regex
    "Returns every non-overlapping match."
    "" [
      ⟨"Extract numbers.",
       "root.numbers = this.s.re_find_all(\"[0-9]+\")",
       [("\x7b\"s\":\"a1 b22 c333\"\x7d", "\x7b\"numbers\":[\"1\",\"22\",\"333\"]\x7d")], true⟩]

/-- Notes on `re_replace_all`. -/
def Method.reReplaceAllNotes : Notes :=
  .pure .regex
    "Replaces every match of a pattern."
    "The replacement may refer to capture groups as `$1` or `$\x7bname\x7d`." [
      ⟨"Swap the parts of a key.",
       "root.key = this.key.re_replace_all(\"([a-z]+)-([0-9]+)\", \"$\x7b2\x7d_$1\")",
       [("\x7b\"key\":\"order-42\"\x7d", "\x7b\"key\":\"42_order\"\x7d")], true⟩]

/-- Notes on `map_each`. -/
def Method.mapEachNotes : Notes :=
  .pure .collections
    "Applies a query to every element."
    ("Elements mapped to `deleted()` are removed and elements mapped to `nothing()` are " ++
      "kept unchanged. On objects the query sees each entry as `\x7b\"key\", " ++
      "\"value\"\x7d` and its result replaces the value.") [
      ⟨"Double every number.",
       "root.doubled = this.nums.map_each(n -> n * 2)",
       [("\x7b\"nums\":[1,2,3]\x7d", "\x7b\"doubled\":[2,4,6]\x7d")], true⟩,
      ⟨"Drop elements while mapping.",
       ("root.big = this.nums.map_each(n -> if n > 1 \x7b n * 10 \x7d else \x7b " ++
        "deleted() \x7d)"),
       [("\x7b\"nums\":[1,2,3]\x7d", "\x7b\"big\":[20,30]\x7d")], true⟩,
      ⟨"Rewrite object values.",
       "root.prices = this.prices.map_each(entry -> entry.value * this.rate)",
       [("\x7b\"rate\":2,\"prices\":\x7b\"apple\":1,\"pear\":3\x7d\x7d",
         "\x7b\"prices\":\x7b\"apple\":2,\"pear\":6\x7d\x7d")], true⟩]

/-- Notes on `filter`. -/
def Method.filterNotes : Notes :=
  .pure .collections
    "Keeps the elements a predicate accepts."
    "On objects the predicate sees each entry as `\x7b\"key\", \"value\"\x7d`." [
      ⟨"Keep large numbers.",
       "root.big = this.nums.filter(n -> n > 2)",
       [("\x7b\"nums\":[1,3,2,5]\x7d", "\x7b\"big\":[3,5]\x7d")], true⟩,
      ⟨"Drop null fields.",
       "root = this.filter(kv -> kv.value != null)",
       [("\x7b\"a\":1,\"b\":null\x7d", "\x7b\"a\":1\x7d")], true⟩]

/-- Notes on `any`. -/
def Method.anyNotes : Notes :=
  .pure .collections
    "Checks whether any element passes a test."
    "" [
      ⟨"Look for errors.",
       "root.failed = this.results.any(r -> r.status == \"error\")",
       [("\x7b\"results\":[\x7b\"status\":\"ok\"\x7d,\x7b\"status\":\"error\"\x7d]\x7d",
         "\x7b\"failed\":true\x7d")], true⟩]

/-- Notes on `all`. -/
def Method.allNotes : Notes :=
  .pure .collections
    "Checks whether every element passes a test."
    "An empty array fails the check." [
      ⟨"Require positive numbers.",
       "root.ok = this.nums.all(n -> n > 0)",
       [("\x7b\"nums\":[1,2]\x7d", "\x7b\"ok\":true\x7d"),
        ("\x7b\"nums\":[1,-2]\x7d", "\x7b\"ok\":false\x7d"),
        ("\x7b\"nums\":[]\x7d", "\x7b\"ok\":false\x7d")], true⟩]

/-- Notes on `fold`. -/
def Method.foldNotes : Notes :=
  .pure .collections
    "Reduces an array to a single value."
    ("The query runs once per element with `\x7b\"tally\", \"value\"\x7d` as its " ++
      "context and returns the next tally.") [
      ⟨"Sum numbers.",
       "root.total = this.nums.fold(0, acc -> acc.tally + acc.value)",
       [("\x7b\"nums\":[3,8,11]\x7d", "\x7b\"total\":22\x7d")], true⟩,
      ⟨"Concatenate strings.",
       "root.text = this.words.fold(\"\", tally + value)",
       [("\x7b\"words\":[\"a\",\"b\",\"c\"]\x7d", "\x7b\"text\":\"abc\"\x7d")], true⟩]

/-- Notes on `sort`. -/
def Method.sortNotes : Notes :=
  .pure .collections
    "Sorts an array."
    ("Without a query numbers and strings sort in ascending order. A query receives " ++
      "`\x7b\"left\", \"right\"\x7d` and returns whether `left` sorts before `right`. " ++
      "The sort is stable.") [
      ⟨"Natural order.",
       "root.sorted = this.nums.sort()",
       [("\x7b\"nums\":[3,1,2]\x7d", "\x7b\"sorted\":[1,2,3]\x7d")], true⟩,
      ⟨"Descending order.",
       "root.sorted = this.nums.sort(p -> p.left > p.right)",
       [("\x7b\"nums\":[3,1,2]\x7d", "\x7b\"sorted\":[3,2,1]\x7d")], true⟩,
      ⟨"Mixed types cannot be compared.",
       "root.sorted = this.mixed.sort()",
       [("\x7b\"mixed\":[1,\"a\"]\x7d", "Error(cannot compare)")], true⟩]

/-- Notes on `sort_by`. -/
def Method.sortByNotes : Notes :=
  .pure .collections
    "Sorts an array by a key."
    "The query extracts the key of each element. Keys must be mutually comparable." [
      ⟨"Sort people by age.",
       "root.names = this.people.sort_by(p -> p.age).map_each(p -> p.name)",
       [(("\x7b\"people\":[\x7b\"name\":\"b\",\"age\":30\x7d,\x7b\"name\":\"a\"," ++
          "\"age\":20\x7d]\x7d"), "\x7b\"names\":[\"a\",\"b\"]\x7d")], true⟩]

/-- Notes on `sum`. -/
def Method.sumNotes : Notes :=
  .pure .collections
    "Adds up an array of numbers."
    "" [
      ⟨"Total a basket.",
       "root.total = this.prices.sum()",
       [("\x7b\"prices\":[1,2,3.5]\x7d", "\x7b\"total\":6.5\x7d")], true⟩]

/-- Notes on `join`. -/
def Method.joinNotes : Notes :=
  .pure .collections
    "Joins an array of strings."
    "" [
      ⟨"Build a sentence.",
       "root.text = this.words.join(\" \")",
       [("\x7b\"words\":[\"hello\",\"world\"]\x7d", "\x7b\"text\":\"hello world\"\x7d")], true⟩]

/-- Notes on `keys`. -/
def Method.keysNotes : Notes :=
  .pure .collections
    "Returns the keys of an object, sorted."
    "" [
      ⟨"List field names.",
       "root.keys = this.keys()",
       [("\x7b\"b\":1,\"a\":2\x7d", "\x7b\"keys\":[\"a\",\"b\"]\x7d")], true⟩]

/-- Notes on `values`. -/
def Method.valuesNotes : Notes :=
  .pure .collections
    "Returns the values of an object, ordered by key."
    "" [
      ⟨"List field values.",
       "root.values = this.values()",
       [("\x7b\"b\":1,\"a\":2\x7d", "\x7b\"values\":[2,1]\x7d")], true⟩]

/-- Notes on `index`. -/
def Method.indexNotes : Notes :=
  .pure .collections
    "Returns the element at an index."
    "Negative indices count back from the end. Out of range indices fail." [
      ⟨"First and last elements.",
       "root.first = this.a.index(0)\nroot.last = this.a.index(-1)",
       [("\x7b\"a\":[\"x\",\"y\",\"z\"]\x7d", "\x7b\"first\":\"x\",\"last\":\"z\"\x7d")], true⟩,
      ⟨"Out of range.",
       "root.v = this.a.index(5)",
       [("\x7b\"a\":[1]\x7d", "Error(out of bounds)")], true⟩]

/-- Notes on `append`. -/
def Method.appendNotes : Notes :=
  .pure .collections
    "Adds elements to the end of an array."
    "" [
      ⟨"Extend a list.",
       "root.a = this.a.append(3, this.extra)",
       [("\x7b\"a\":[1,2],\"extra\":4\x7d", "\x7b\"a\":[1,2,3,4]\x7d")], true⟩]

/-- Notes on `merge`. -/
def Method.mergeNotes : Notes :=
  .pure .collections
    "Merges another value into the target."
    ("Objects merge recursively and arrays concatenate. When both sides hold a " ++
      "non-object value under the same key, the result is an array of both.") [
      ⟨"Combine two documents.",
       "root = this.a.merge(this.b)",
       [(("\x7b\"a\":\x7b\"x\":1,\"tag\":\"a\"\x7d,\"b\":\x7b\"y\":2," ++
          "\"tag\":\"b\"\x7d\x7d"), "\x7b\"tag\":[\"a\",\"b\"],\"x\":1,\"y\":2\x7d")], true⟩]

/-- Notes on `without`. -/
def Method.withoutNotes : Notes :=
  .pure .collections
    "Removes dot paths from an object."
    "" [
      ⟨"Strip nested fields.",
       "root = this.without(\"user.password\", \"debug\")",
       [("\x7b\"user\":\x7b\"name\":\"ada\",\"password\":\"x\"\x7d,\"debug\":true\x7d",
         "\x7b\"user\":\x7b\"name\":\"ada\"\x7d\x7d")], true⟩]

/-- Notes on `exists`. -/
def Method.existsNotes : Notes :=
  .pure .collections
    "Checks whether a dot path is present."
    "A present field holding `null` still exists." [
      ⟨"Check nested fields.",
       "root.a = this.exists(\"a.b\")\nroot.c = this.exists(\"c\")",
       [("\x7b\"a\":\x7b\"b\":null\x7d\x7d", "\x7b\"a\":true,\"c\":false\x7d")], true⟩]

/-- Notes on `get`. -/
def Method.getNotes : Notes :=
  .pure .collections
    "Reads a dot path, returning `null` when absent."
    "" [
      ⟨"Read a computed path.",
       "root.v = this.doc.get(this.field)",
       [("\x7b\"doc\":\x7b\"a\":\x7b\"b\":7\x7d\x7d,\"field\":\"a.b\"\x7d", "\x7b\"v\":7\x7d")],
       true⟩]

/-- Notes on `flatten`. -/
def Method.flattenNotes : Notes :=
  .pure .collections
    "Flattens nested arrays by one level."
    "" [
      ⟨"Flatten pages of results.",
       "root.items = this.pages.flatten()",
       [("\x7b\"pages\":[[1,2],[3],4]\x7d", "\x7b\"items\":[1,2,3,4]\x7d")], true⟩]

/-- Notes on `unique`. -/
def Method.uniqueNotes : Notes :=
  .pure .collections
    "Removes duplicate elements, keeping the first."
    "" [
      ⟨"Deduplicate tags.",
       "root.tags = this.tags.unique()",
       [("\x7b\"tags\":[\"a\",\"b\",\"a\",1,1.0]\x7d",
         "\x7b\"tags\":[\"a\",\"b\",1]\x7d")], true⟩]

/-- Notes on a method of the application. -/
def Method.applicationNotes : Notes :=
  { Notes.pure .general "" "" [] with status := .beta }

/-- What the catalog tells of a method. -/
def Method.notes : Method → Notes
  | .type => Method.typeNotes
  | .notNull => Method.notNullNotes
  | .or => Method.orNotes
  | .catch => Method.catchNotes
  | .bool => Method.boolNotes
  | .notEmpty => Method.notEmptyNotes
  | .ceil => Method.ceilNotes
  | .floor => Method.floorNotes
  | .round => Method.roundNotes
  | .abs => Method.absNotes
  | .number => Method.numberNotes
  | .int64 => Method.int64Notes
  | .uint64 => Method.uint64Notes
  | .float64 => Method.float64Notes
  | .uppercase => Method.uppercaseNotes
  | .lowercase => Method.lowercaseNotes
  | .trim => Method.trimNotes
  | .capitalize => Method.capitalizeNotes
  | .length => Method.lengthNotes
  | .contains => Method.containsNotes
  | .hasPrefix => Method.hasPrefixNotes
  | .hasSuffix => Method.hasSuffixNotes
  | .replaceAll => Method.replaceAllNotes
  | .split => Method.splitNotes
  | .reverse => Method.reverseNotes
  | .slice => Method.sliceNotes
  | .string => Method.stringNotes
  | .bytes => Method.bytesNotes
  | .format => Method.formatNotes
  | .quote => Method.quoteNotes
  | .hash => Method.hashNotes
  | .encode => Method.encodeNotes
  | .decode => Method.decodeNotes
  | .parseJson => Method.parseJsonNotes
  | .formatJson => Method.formatJsonNotes
  | .reMatch => Method.reMatchNotes
  | .reFindAll => Method.reFindAllNotes
  | .reReplaceAll => Method.reReplaceAllNotes
  | .mapEach => Method.mapEachNotes
  | .filter => Method.filterNotes
  | .any => Method.anyNotes
  | .all => Method.allNotes
  | .fold => Method.foldNotes
  | .sort => Method.sortNotes
  | .sortBy => Method.sortByNotes
  | .sum => Method.sumNotes
  | .join => Method.joinNotes
  | .keys => Method.keysNotes
  | .values => Method.valuesNotes
  | .index => Method.indexNotes
  | .append => Method.appendNotes
  | .merge => Method.mergeNotes
  | .without => Method.withoutNotes
  | .exists => Method.existsNotes
  | .get => Method.getNotes
  | .flatten => Method.flattenNotes
  | .unique => Method.uniqueNotes
  | .identity _ => Method.applicationNotes

end Reshape
