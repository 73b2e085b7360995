/-!
# Samples

Configurations to begin with, as the command line writes them: a small one, and one that shows
everything.
-/

namespace Triplify.CommandLine

/-- The samples. -/
inductive Sample
  | basic
  | full
deriving Repr, DecidableEq

namespace Sample

/-- Lines with a line break after each. -/
def unlines (lines : List String) : String := String.join (lines.map (· ++ "\n"))

/-- The small configuration. -/
def basicText : String :=
  unlines [
    "<?xml version=\"1.0\" encoding=\"UTF-8\"?>",
    "<config>",
    "  <!-- Prefixes usable in predicates, types and path expressions.",
    "       owl, rdf and rdfs are always available. -->",
    "  <namespaces>",
    "    <namespace prefix=\"ex\" uri=\"http://example.com/\"/>",
    "  </namespaces>",
    "",
    "  <!-- One resource per matching input element. Paths are XPath 1.0; a",
    "       default-namespaced input root is reachable through the vp prefix. -->",
    "  <mapping match=\"/records/record\">",
    "    <resource>",
    "      <!-- \x7bpath\x7d placeholders are evaluated against the matched element -->",
    "      <identifier value=\"http://example.com/record/\x7b@id\x7d\"/>",
    "      <type value=\"http://example.com/Record\"/>",
    "      <triple predicate=\"rdfs:label\" value=\"\x7btitle\x7d\"/>",
    "    </resource>",
    "  </mapping>",
    "</config>"]

/-- The configuration that shows everything. -/
def fullText : String :=
  unlines [
    "<?xml version=\"1.0\" encoding=\"UTF-8\"?>",
    "<config>",
    "  <namespaces>",
    "    <namespace prefix=\"ex\" uri=\"http://example.com/\"/>",
    "    <namespace prefix=\"xsd\" uri=\"http://www.w3.org/2001/XMLSchema#\"/>",
    "  </namespaces>",
    "",
    "  <!-- Used when processing with the split flag: chunk the input every",
    "       500 top-level elements (or type=\"filesize\" with size in kilobytes).",
    "       Chunks go to inputchunks/ next to the input, output to outputchunks/. -->",
    "  <split type=\"elementcount\" size=\"500\" inputdirectoryname=\"inputchunks\" outputdirectoryname=\"outputchunks\"/>",
    "",
    "  <!-- Reusable fragments, referenced with <usenamedmapping name=\"..\"/> -->",
    "  <namedmapping name=\"address\">",
    "    <bnode predicate=\"ex:address\" type=\"ex:Address\">",
    "      <triple predicate=\"ex:city\" value=\"\x7baddress/city\x7d\"/>",
    "      <triple predicate=\"ex:postcode\" value=\"\x7baddress/postcode\x7d\" modifier=\"strtolower\"/>",
    "    </bnode>",
    "  </namedmapping>",
    "",
    "  <!-- Counters: ^counter_name~ reads the current value -->",
    "  <counter name=\"row\" initialValue=\"0\"/>",
    "",
    "  <!-- namedgraph puts everything emitted for each match into its own graph;",
    "       the output switches to TriG unless N-Quads was chosen -->",
    "  <mapping match=\"/records/record\" namedgraph=\"http://example.com/graph/\x7b@source\x7d\">",
    "    <counter name=\"row\" iterate=\"true\"/>",
    "    <uniqueidentifier name=\"batch\" generate=\"true\"/>",
    "    <resource>",
    "      <identifier value=\"http://example.com/record/\x7b@id\x7d\"/>",
    "      <type value=\"http://example.com/Record\"/>",
    "      <triple predicate=\"rdfs:label\" value=\"\x7btitle\x7d\" language=\"en\"/>",
    "      <triple predicate=\"ex:position\" value=\"^counter_row~\" type=\"xsd:integer\"/>",
    "      <triple predicate=\"ex:batch\" value=\"^uniqueidentifier_batch~\"/>",
    "      <triple predicate=\"ex:checksum\" value=\"\x7btitle\x7d\" modifier=\"md5\"/>",
    "      <triple predicate=\"ex:related\" object=\"\x7brelated/@ref\x7d\" prefix=\"http://example.com/record/\"/>",
    "",
    "      <if match=\"address\">",
    "        <usenamedmapping name=\"address\"/>",
    "      </if>",
    "      <else>",
    "        <triple predicate=\"rdfs:comment\" value=\"No address\"/>",
    "      </else>",
    "",
    "      <!-- cases stop the switch once matched unless they carry break -->",
    "      <switch match=\"status\">",
    "        <case value=\"active\">",
    "          <type value=\"http://example.com/ActiveRecord\"/>",
    "        </case>",
    "        <case match=\"@archived\" break=\"true\">",
    "          <type value=\"http://example.com/ArchivedRecord\"/>",
    "        </case>",
    "        <default>",
    "          <triple predicate=\"ex:status\" value=\"unknown\"/>",
    "        </default>",
    "      </switch>",
    "    </resource>",
    "",
    "    <if match=\"not(@id)\">",
    "      <error message=\"record without an id\" exit=\"false\"/>",
    "    </if>",
    "  </mapping>",
    "</config>"]

/-- The text of a sample. -/
def text : Sample → String
  | basic => basicText
  | full => fullText

end Sample

end Triplify.CommandLine
