/-
  VclReview/Directive/Builtin.lean
  ================================
  **The shapes of the configuration language**, eleven kinds of line that are
  told from each other by fixed words.  Several words may stand in one line; the
  ranks decide which shape gets it.
-/
import VclReview.Directive.Shape
import VclReview.Text.Fields

namespace VclReview.Shape

open Text

/-! ### Backends -/

/-- The language version. -/
def version : Shape where
  label := "VersionShape"
  name := "version"
  rank := some 10
  test := some fun line => contains "vcl 4.0" line
  extract _ := []
  message := "Configuration: Using Varnish Configuration Language version 4.0."
  advice := ["Note: Ensure compatibility with Varnish modules and backends."]

/-- The head of a backend definition. -/
def backend : Shape where
  label := "BackendShape"
  name := "backend"
  rank := some 20
  test := some fun line => containsBefore line "backend" ['{']
  extract line := [("name", column line 2)]
  message := "Configuration: Found backend definition named '{name}'."
  advice := []

/-- The host name of a backend. -/
def host : Shape where
  label := "HostShape"
  name := "host"
  rank := some 30
  test := some fun line => contains "host =" line
  extract line := [("host", quotedValue line)]
  message := "Configuration: Backend server hostname is '{host}'."
  advice := ["Recommendation: Verify that the hostname resolves correctly and is reachable."]

/-- The port of a backend. -/
def port : Shape where
  label := "PortShape"
  name := "port"
  rank := some 40
  test := some fun line => contains "port =" line
  extract line := [("port", dropQuotes (dropSemicolons (column line 3)))]
  message := "Configuration: Backend server port is '{port}'."
  advice := ["Recommendation: Ensure the backend service is listening on port {port}."]

/-! ### Blocks -/

/-- The head of an access control list. -/
def acl : Shape where
  label := "AclShape"
  name := "acl"
  rank := some 50
  test := some fun line => containsBefore line "acl" ['{']
  extract line := [("name", column line 2)]
  message := "Configuration: Found Access Control List (ACL) named '{name}'."
  advice := ["Recommendation: Verify ACL entries to ensure correct access control."]

/-- The inclusion of another file. -/
def inclusion : Shape where
  label := "IncludeShape"
  name := "include"
  rank := some 60
  test := some fun line => containsBefore line "include" ";"
  extract line := [("filename", quotedValue line)]
  message := "Configuration: Including additional VCL file '{filename}'."
  advice := ["Recommendation: Check the included file for correctness and potential conflicts."]

/-- The head of a subroutine, and any other head that mentions one. -/
def subroutine : Shape where
  label := "SubroutineShape"
  name := "sub"
  rank := some 70
  test := some fun line => containsBefore line "sub" ['{']
  extract line := [("name", column line 2)]
  message := "Configuration: Found subroutine '{name}'."
  advice := ["Note: Analyze the logic within this subroutine for performance impact."]

/-! ### Statements -/

/-- The return of a synthetic response. -/
def synth : Shape where
  label := "SynthShape"
  name := "synth"
  rank := some 80
  test := some fun line => contains "return (synth(" line
  extract line := [("code", synthCode line)]
  message := "Configuration: Returning a synthetic response with status code '{code}'."
  advice := ["Recommendation: Ensure synthetic responses are used appropriately to handle errors."]

/-- The setting of a request header. -/
def requestHeader : Shape where
  label := "RequestHeaderShape"
  name := "req_header"
  rank := some 90
  test := some fun line => contains "set req.http." line
  extract line :=
    [("header", leadingColumn line "req.http."), ("value", assignedValue line)]
  message := "Configuration: Setting request HTTP header '{header}' to '{value}'."
  advice :=
    ["Recommendation: Ensure headers are set correctly to avoid request manipulation issues."]

/-- The time to live of a backend response. -/
def ttl : Shape where
  label := "TtlShape"
  name := "ttl"
  rank := some 100
  test := some fun line => contains "set beresp.ttl =" line
  extract line := [("ttl", assignedValue line)]
  message := "Configuration: Setting backend response Time-To-Live (TTL) to '{ttl}'."
  advice :=
    ["Performance Note: TTL balances content freshness with backend load.",
     "Recommendation: Adjust TTL based on content volatility and caching strategy."]

/-- The grace period of a backend response. -/
def grace : Shape where
  label := "GraceShape"
  name := "grace"
  rank := some 110
  test := some fun line => contains "set beresp.grace =" line
  extract line := [("grace", assignedValue line)]
  message := "Configuration: Setting backend response grace period to '{grace}'."
  advice :=
    ["Performance Note: Grace period allows serving slightly stale content during backend issues.",
     "Recommendation: Use grace periods to improve user experience during backend disruptions."]

/-- The shapes of the language, in the order in which they are tried. -/
def builtin : List Shape :=
  [version, backend, host, port, acl, inclusion, subroutine, synth, requestHeader, ttl, grace]

end VclReview.Shape
