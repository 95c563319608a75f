import Errata.Demo
import Errata.Target.Execution
import Errata.Target.Import
import Errata.Target.Library

/-!
# The standard world

What surrounds the files where the package is installed: its own modules, with what they bind, and the modules of the
language and of the packages that it uses. Of these little is known but their names, and for some what names they have
themselves. Texts are read as scripts.
-/

namespace Errata

/-- What a module is made of: a file, a directory with a file for itself, or a directory alone. -/
inductive InstalledModule.Shape where
  | file
  | package
  | directory
  deriving DecidableEq, Repr

/-- A module that is installed. -/
structure InstalledModule where
  name : String
  shape : InstalledModule.Shape
  isDocumented : Bool
  names : List String
  deriving Repr

namespace InstalledModule

/-- Other modules may stand in the module. -/
def isPackage (m : InstalledModule) : Bool := m.shape != .file

/-- The modules of the package. -/
def all : List InstalledModule := [
  ⟨"json_resp", .package, false, [
      "Annotation", "Disposition", "Status", "internal", "json_error", "request",
      "CompiledUnit", "compile_unit", "Context", "Diagnostic", "CompileError",
      "ContractViolation", "JsonRespError", "Case", "ErrorTaxonomyIR", "RawCase", "RawUnit",
      "DocArtifact", "DocArtifacts", "combine_errors", "merge_responses", "JsonError",
      "JsonResponse", "ResponseTable", "JsonErrorEnum", "__all__", "api", "attrs", "cli",
      "compiler", "config", "diagnostics", "errors", "ir", "log", "openapi", "response",
      "taxonomy"]⟩,
  ⟨"json_resp.__init__", .file, false, [
      "Annotation", "Disposition", "Status", "internal", "json_error", "request",
      "CompiledUnit", "compile_unit", "Context", "Diagnostic", "CompileError",
      "ContractViolation", "JsonRespError", "Case", "ErrorTaxonomyIR", "RawCase", "RawUnit",
      "DocArtifact", "DocArtifacts", "combine_errors", "merge_responses", "JsonError",
      "JsonResponse", "ResponseTable", "JsonErrorEnum", "__all__"]⟩,
  ⟨"json_resp.api", .package, false, [
      "collect_components", "register_openapi", "register_error_handlers", "__all__", "demo",
      "docs", "handlers"]⟩,
  ⟨"json_resp.api.__init__", .file, false, [
      "collect_components", "register_openapi", "register_error_handlers", "__all__"]⟩,
  ⟨"json_resp.api.demo", .file, true, [
      "annotations", "HTTPStatus", "Annotated", "APIRouter", "FastAPI", "JSONResponse",
      "BaseModel", "register_openapi", "register_error_handlers", "internal", "json_error",
      "request", "combine_errors", "merge_responses", "JsonResponse", "JsonErrorEnum",
      "DemoErrors", "HelloResponse", "NOT_FOUND_EITHER", "router", "number", "index",
      "create_app"]⟩,
  ⟨"json_resp.api.docs", .file, true, [
      "annotations", "Any", "FastAPI", "DocArtifact", "DocArtifacts", "JsonErrorEnum",
      "DocSource", "collect_components", "register_openapi"]⟩,
  ⟨"json_resp.api.handlers", .file, true, [
      "annotations", "logging", "FastAPI", "Request", "JSONResponse", "JsonErrorEnum", "logger",
      "register_error_handlers"]⟩,
  ⟨"json_resp.attrs", .file, true, [
      "annotations", "dataclass", "field", "Enum", "HTTPStatus", "Any", "Context",
      "MSG_BAD_DISPOSITION", "MSG_ONLY_ASSIGNMENTS", "MSG_UNKNOWN_ATTRIBUTE", "MSG_BAD_STATUS",
      "MSG_BAD_CODE", "MSG_BOTH_REQUIRED", "Disposition", "request", "internal", "Annotation",
      "json_error", "Status", "INTERNAL_SERVER_ERROR", "ClientFacing", "Internal",
      "AttributeSet", "extract_disposition", "extract_status", "_extract_str",
      "parse_attributes"]⟩,
  ⟨"json_resp.cli", .directory, false, [
      "app", "targets"]⟩,
  ⟨"json_resp.cli.app", .file, false, [
      "json", "Path", "Annotated", "typer", "Console", "Table", "ClientFacing", "load_taxonomy",
      "get_settings", "CompileError", "ContractViolation", "TargetError", "configure_logging",
      "combine_errors", "JsonErrorEnum", "app", "console", "err_console", "TargetArg", "root",
      "_load", "check", "openapi", "combine", "demo", "main"]⟩,
  ⟨"json_resp.cli.targets", .file, true, [
      "importlib", "sys", "Path", "ModuleType", "TargetError", "JsonErrorEnum",
      "_is_target_missing", "_load_module", "load_taxonomy"]⟩,
  ⟨"json_resp.compiler", .file, false, [
      "logging", "dataclass", "Settings", "parse_unit_config", "Context", "Case",
      "ErrorTaxonomyIR", "RawUnit", "build_ir", "classify_case", "DocArtifacts",
      "lower_openapi", "ResponseTable", "lower_responses", "logger", "CompiledUnit",
      "compile_unit"]⟩,
  ⟨"json_resp.config", .file, false, [
      "logging", "os", "dataclass", "Annotation", "logger", "DEFAULT_INTERNAL_CODE", "_TRUTHY",
      "_FALSY", "_env_flag", "Settings", "get_settings", "UnitConfig", "parse_unit_config"]⟩,
  ⟨"json_resp.diagnostics", .file, true, [
      "annotations", "dataclass", "CompileError", "Diagnostic", "Context"]⟩,
  ⟨"json_resp.errors", .file, true, [
      "annotations", "Iterable", "TYPE_CHECKING", "JsonRespError", "CompileError",
      "ContractViolation", "TargetError"]⟩,
  ⟨"json_resp.ir", .file, true, [
      "annotations", "dataclass", "field", "Annotation", "AttributeSet", "ClientFacing",
      "Internal", "parse_attributes", "UnitConfig", "Context", "INTERNAL_ERROR_NAME",
      "MSG_MISSING_ATTRIBUTE", "MSG_RESERVED_NAME", "MSG_NAME_CLASH", "RawCase", "RawUnit",
      "Case", "ErrorTaxonomyIR", "classify_case", "build_ir"]⟩,
  ⟨"json_resp.log", .file, false, [
      "logging", "Console", "RichHandler", "LOG_FORMAT", "configure_logging"]⟩,
  ⟨"json_resp.openapi", .file, true, [
      "annotations", "copy", "Iterator", "Mapping", "dataclass", "Any", "INTERNAL_SERVER_ERROR",
      "ClientFacing", "ContractViolation", "INTERNAL_ERROR_NAME", "Case", "ErrorTaxonomyIR",
      "SCHEMA_REF_PREFIX", "MEDIA_TYPE", "DocArtifact", "DocArtifacts", "_schema_ref",
      "_enum_property", "_build_artifact", "_error_schema", "document_case",
      "document_internal_error", "lower_openapi", "combine_errors", "merge_responses"]⟩,
  ⟨"json_resp.response", .file, true, [
      "annotations", "logging", "dataclass", "Any", "Generic", "Protocol", "TypeVar",
      "jsonable_encoder", "BaseModel", "JSONResponse", "INTERNAL_SERVER_ERROR", "ClientFacing",
      "Settings", "Case", "ErrorTaxonomyIR", "internal_logger", "T", "JsonError",
      "JsonResponse", "ErrorValue", "ConversionRule", "ResponseTable", "_lower_case",
      "lower_responses"]⟩,
  ⟨"json_resp.taxonomy", .file, true, [
      "annotations", "inspect", "Annotated", "Any", "ClassVar", "get_args", "get_origin",
      "JSONResponse", "Annotation", "CompiledUnit", "compile_unit", "get_settings",
      "Diagnostic", "CompileError", "Case", "RawCase", "RawUnit", "DocArtifacts", "JsonError",
      "_NONE_TYPES", "_split_hint", "_is_case_hint", "collect_raw_unit", "JsonErrorEnum",
      "_RESERVED_NAMES", "_make_case_class"]⟩]

/-- A module has the name. -/
def isModule (name : String) : Bool := all.any fun m => m.name = name

/-- The names that a module offers to those who take everything from it. -/
def exports (m : InstalledModule) : Binding :=
  .subject (.value (.list ((m.names.takeWhile (· ≠ Scene.exportName)).map Value.text)))

end InstalledModule

namespace World

/-- What the names stand for that a declaration is written with, and those of the faults of the package. -/
def knownNames : List (String × Binding) := [
  (ClassTable.rootName, .subject (.cls .root)), (Demo.declaration.name, .subject (.cls Demo.classes.2)),
  ("json_error", .form .mark), ("request", .subject (.value (.disposition .request))),
  ("internal", .subject (.value (.disposition .internal))), ("HTTPStatus", .form .statuses),
  ("Annotated", .form .annotated), ("ClassVar", .form .classVariable), ("Optional", .form .choice),
  ("Any", .generic "typing.Any"), ("TYPE_CHECKING", .subject (.value (.bool false))),
  ("JsonRespError", .generic "JsonRespError"), ("CompileError", .generic "CompileError"),
  ("ContractViolation", .generic "ContractViolation"), ("TargetError", .generic "TargetError")]

/-- A name of an installed module, with what it stands for. -/
def installedBinding (m : InstalledModule) (name : String) : String × Binding :=
  let inside := m.name ++ "." ++ name
  (name,
    if InstalledModule.isModule inside then .module inside
    else if name = Scene.exportName then m.exports
    else (knownNames.lookup name).getD .unknown)

/-- An installed module. The parts of its packages are not looked for among the files. -/
def installed (m : InstalledModule) : Module :=
  let blank := Module.blank (if m.isPackage then some ⟨false, true⟩ else none) (m.shape != .directory)
  { blank with
    bindings := .ofList (m.names.map (installedBinding m))
    attributes := blank.attributes ++ if m.isDocumented then ["__doc__"] else [] }

/-- The modules that have been loaded with the package. -/
def loadedNames : List String := [
  "__future__", "__main__", "_abc", "_ast", "_codecs", "_collections", "_collections_abc", "_frozen_importlib",
  "_frozen_importlib_external", "_functools", "_imp", "_io", "_json", "_opcode", "_operator", "_signal", "_sre",
  "_stat", "_string", "_thread", "_typing", "_warnings", "_weakref", "_weakrefset", "abc", "ast", "atexit",
  "builtins", "codecs", "collections", "collections.abc", "contextlib", "copy", "copyreg", "dataclasses", "dis",
  "encodings", "encodings.aliases", "encodings.utf_8", "enum", "errno", "fastapi", "fastapi.encoders",
  "fastapi.responses", "fnmatch", "functools", "genericpath", "http", "importlib", "importlib._abc",
  "importlib._bootstrap", "importlib._bootstrap_external", "importlib.machinery", "importlib.util", "inspect", "io",
  "ipaddress", "itertools", "json", "json.decoder", "json.encoder", "json.scanner", "keyword", "linecache", "logging",
  "marshal", "ntpath", "opcode", "operator", "os", "os.path", "pathlib", "posix", "posixpath", "pydantic", "re",
  "re._casefix", "re._compiler", "re._constants", "re._parser", "reprlib", "rich", "rich.console", "rich.logging",
  "rich.table", "starlette", "starlette.responses", "stat", "string", "sys", "textwrap", "threading", "time", "token",
  "tokenize", "traceback", "typer", "types", "typing", "typing.io", "typing.re", "urllib", "urllib.parse", "warnings",
  "weakref", "zipimport"]

/-- The modules that are looked for before the files. -/
def earlyNames : List String := [
  "__hello__ __phello__ __phello__.ham __phello__.ham.eggs __phello__.spam _sitebuiltins _symtable _tracemalloc",
  "faulthandler gc pwd runpy site xxsubtype"].flatMap Script.wordsOf

/-- The modules that are looked for after the files. -/
def lateNames : List String := [
  "_asyncio _bisect _blake2 _bootsubprocess _bz2 _codecs_cn _codecs_hk _codecs_iso2022 _codecs_jp _codecs_kr",
  "_codecs_tw _compat_pickle _compression _contextvars _crypt _csv _ctypes _curses _curses_panel _datetime _dbm",
  "_decimal _elementtree _gdbm _hashlib _heapq _locale _lsprof _lzma _markupbase _md5 _multibytecodec",
  "_multiprocessing _osx_support _pickle _posixshmem _posixsubprocess _py_abc _pydecimal _pyio _queue _random _sha1",
  "_sha256 _sha3 _sha512 _socket _sqlite3 _ssl _statistics _strptime _struct _threading_local _tkinter _tokenize",
  "_uuid _zoneinfo aifc argparse array asynchat asyncio asyncio.__main__ asyncio.base_events asyncio.base_futures",
  "asyncio.base_subprocess asyncio.base_tasks asyncio.constants asyncio.coroutines asyncio.events",
  "asyncio.exceptions asyncio.format_helpers asyncio.futures asyncio.locks asyncio.log asyncio.mixins",
  "asyncio.proactor_events asyncio.protocols asyncio.queues asyncio.runners asyncio.selector_events",
  "asyncio.sslproto asyncio.staggered asyncio.streams asyncio.subprocess asyncio.taskgroups asyncio.tasks",
  "asyncio.threads asyncio.timeouts asyncio.transports asyncio.trsock asyncio.unix_events asyncio.windows_events",
  "asyncio.windows_utils asyncore audioop base64 bdb binascii bisect bz2 cProfile calendar cgi cgitb chunk cmath",
  "cmd code codeop colorsys compileall concurrent concurrent.futures concurrent.futures._base",
  "concurrent.futures.process concurrent.futures.thread configparser contextvars crypt csv ctypes ctypes._aix",
  "ctypes._endian ctypes.macholib ctypes.macholib.dyld ctypes.macholib.dylib ctypes.macholib.framework ctypes.util",
  "ctypes.wintypes curses curses.ascii curses.has_key curses.panel curses.textpad datetime dbm dbm.dumb dbm.gnu",
  "dbm.ndbm decimal difflib distutils doctest email email._encoded_words email._header_value_parser",
  "email._parseaddr email._policybase email.base64mime email.charset email.contentmanager email.encoders",
  "email.errors email.feedparser email.generator email.header email.headerregistry email.iterators email.message",
  "email.mime email.mime.application email.mime.audio email.mime.base email.mime.image email.mime.message",
  "email.mime.multipart email.mime.nonmultipart email.mime.text email.parser email.policy email.quoprimime",
  "email.utils encodings.ascii encodings.base64_codec encodings.big5 encodings.big5hkscs encodings.bz2_codec",
  "encodings.charmap encodings.cp037 encodings.cp1006 encodings.cp1026 encodings.cp1125 encodings.cp1140",
  "encodings.cp1250 encodings.cp1251 encodings.cp1252 encodings.cp1253 encodings.cp1254 encodings.cp1255",
  "encodings.cp1256 encodings.cp1257 encodings.cp1258 encodings.cp273 encodings.cp424 encodings.cp437",
  "encodings.cp500 encodings.cp720 encodings.cp737 encodings.cp775 encodings.cp850 encodings.cp852 encodings.cp855",
  "encodings.cp856 encodings.cp857 encodings.cp858 encodings.cp860 encodings.cp861 encodings.cp862 encodings.cp863",
  "encodings.cp864 encodings.cp865 encodings.cp866 encodings.cp869 encodings.cp874 encodings.cp875 encodings.cp932",
  "encodings.cp949 encodings.cp950 encodings.euc_jis_2004 encodings.euc_jisx0213 encodings.euc_jp encodings.euc_kr",
  "encodings.gb18030 encodings.gb2312 encodings.gbk encodings.hex_codec encodings.hp_roman8 encodings.hz",
  "encodings.idna encodings.iso2022_jp encodings.iso2022_jp_1 encodings.iso2022_jp_2 encodings.iso2022_jp_2004",
  "encodings.iso2022_jp_3 encodings.iso2022_jp_ext encodings.iso2022_kr encodings.iso8859_1 encodings.iso8859_10",
  "encodings.iso8859_11 encodings.iso8859_13 encodings.iso8859_14 encodings.iso8859_15 encodings.iso8859_16",
  "encodings.iso8859_2 encodings.iso8859_3 encodings.iso8859_4 encodings.iso8859_5 encodings.iso8859_6",
  "encodings.iso8859_7 encodings.iso8859_8 encodings.iso8859_9 encodings.johab encodings.koi8_r encodings.koi8_t",
  "encodings.koi8_u encodings.kz1048 encodings.latin_1 encodings.mac_arabic encodings.mac_croatian",
  "encodings.mac_cyrillic encodings.mac_farsi encodings.mac_greek encodings.mac_iceland encodings.mac_latin2",
  "encodings.mac_roman encodings.mac_romanian encodings.mac_turkish encodings.mbcs encodings.oem encodings.palmos",
  "encodings.ptcp154 encodings.punycode encodings.quopri_codec encodings.raw_unicode_escape encodings.rot_13",
  "encodings.shift_jis encodings.shift_jis_2004 encodings.shift_jisx0213 encodings.tis_620 encodings.undefined",
  "encodings.unicode_escape encodings.utf_16 encodings.utf_16_be encodings.utf_16_le encodings.utf_32",
  "encodings.utf_32_be encodings.utf_32_le encodings.utf_7 encodings.utf_8_sig encodings.uu_codec",
  "encodings.zlib_codec ensurepip fcntl filecmp fileinput fractions ftplib getopt getpass gettext glob graphlib grp",
  "gzip hashlib heapq hmac html html.entities html.parser http.client http.cookiejar http.cookies http.server",
  "idlelib imaplib imghdr imp importlib.abc importlib.metadata importlib.metadata._adapters",
  "importlib.metadata._collections importlib.metadata._functools importlib.metadata._itertools",
  "importlib.metadata._meta importlib.metadata._text importlib.readers importlib.resources",
  "importlib.resources._adapters importlib.resources._common importlib.resources._itertools",
  "importlib.resources._legacy importlib.resources.abc importlib.resources.readers importlib.resources.simple",
  "importlib.simple json.tool lib2to3 locale logging.config logging.handlers lzma mailbox mailcap math mimetypes",
  "mmap modulefinder multiprocessing multiprocessing.connection multiprocessing.context multiprocessing.dummy",
  "multiprocessing.dummy.connection multiprocessing.forkserver multiprocessing.heap multiprocessing.managers",
  "multiprocessing.pool multiprocessing.popen_fork multiprocessing.popen_forkserver",
  "multiprocessing.popen_spawn_posix multiprocessing.popen_spawn_win32 multiprocessing.process",
  "multiprocessing.queues multiprocessing.reduction multiprocessing.resource_sharer",
  "multiprocessing.resource_tracker multiprocessing.shared_memory multiprocessing.sharedctypes",
  "multiprocessing.spawn multiprocessing.synchronize multiprocessing.util netrc nis nntplib nturl2path numbers",
  "optparse ossaudiodev pdb pickle pickletools pipes pkgutil platform plistlib poplib pprint profile pstats pty",
  "py_compile pyclbr pydoc pyexpat queue quopri random readline resource rlcompleter sched secrets select selectors",
  "shelve shlex shutil signal smtpd smtplib sndhdr socket socketserver spwd sqlite3 sqlite3.dbapi2 sqlite3.dump",
  "sre_compile sre_constants sre_parse ssl statistics stringprep struct subprocess sunau symtable sysconfig syslog",
  "tabnanny tarfile telnetlib tempfile termios timeit tkinter tkinter.__main__ tkinter.colorchooser",
  "tkinter.commondialog tkinter.constants tkinter.dialog tkinter.dnd tkinter.filedialog tkinter.font",
  "tkinter.messagebox tkinter.scrolledtext tkinter.simpledialog tkinter.tix tkinter.ttk tomllib tomllib._parser",
  "tomllib._re tomllib._types trace tracemalloc tty turtle turtledemo unicodedata unittest unittest.__main__",
  "unittest._log unittest.async_case unittest.case unittest.loader unittest.main unittest.mock unittest.result",
  "unittest.runner unittest.signals unittest.suite unittest.util urllib.error urllib.request urllib.response",
  "urllib.robotparser uu uuid uvicorn venv venv.__main__ wave webbrowser wsgiref wsgiref.handlers wsgiref.headers",
  "wsgiref.simple_server wsgiref.types wsgiref.util wsgiref.validate xdrlib xml xml.dom xml.dom.NodeFilter",
  "xml.dom.domreg xml.dom.expatbuilder xml.dom.minicompat xml.dom.minidom xml.dom.pulldom xml.dom.xmlbuilder",
  "xml.etree xml.etree.ElementInclude xml.etree.ElementPath xml.etree.ElementTree xml.etree.cElementTree",
  "xml.parsers xml.parsers.expat xml.sax xml.sax._exceptions xml.sax.expatreader xml.sax.handler xml.sax.saxutils",
  "xml.sax.xmlreader xmlrpc xmlrpc.client xmlrpc.server zipapp zipfile zlib zoneinfo zoneinfo._common",
  "zoneinfo._tzpath zoneinfo._zoneinfo"].flatMap Script.wordsOf

/-- Those of the modules that have parts. -/
def packageNames : List String := [
  "__phello__ __phello__.ham asyncio collections concurrent concurrent.futures ctypes ctypes.macholib curses dbm",
  "distutils email email.mime encodings ensurepip fastapi html http idlelib importlib importlib.metadata",
  "importlib.resources json lib2to3 logging multiprocessing multiprocessing.dummy pydantic re rich sqlite3",
  "starlette tkinter tomllib turtledemo typer unittest urllib uvicorn venv wsgiref xml xml.dom xml.etree",
  "xml.parsers xml.sax xmlrpc zoneinfo"].flatMap Script.wordsOf

/-- What the names of a module of the language stand for. -/
def libraryBinding (module name : String) : Binding :=
  let inside := module ++ "." ++ name
  if loadedNames.contains inside then .module inside
  else
    match module with
    | "builtins" => ((Script.Thing.builtin? name).map Binding.ofThing).getD .unknown
    | "types" => if name = "NoneType" then .subject (.cls Binding.nothingType) else .foreign inside
    | "typing" | "http" => (knownNames.lookup name).getD (.foreign inside)
    | _ => .foreign inside

/-- The names that a module of the language binds, where they are known. -/
def libraryBindings? (module : String) : Option (List (String × Binding)) :=
  (libraryNames? module).map fun names => names.map fun name => (name, libraryBinding module name)

/-- A module from elsewhere. -/
def foreign (name : String) : Module :=
  let blank := Module.blank (if packageNames.contains name then some ⟨false, true⟩ else none) true
  match libraryBindings? name with
  | some bindings => { blank with bindings := .ofList bindings }
  | none => { blank with isOpen := true }

/-- A module from elsewhere, before it is loaded. -/
def outside (name : String) : String × Outside :=
  let program : Program :=
    match libraryBindings? name with
    | some bindings => bindings.foldr (fun e next => .bind name e.1 e.2 next) .done
    | none => .change (.unclose name) .done
  (name, .code (packageNames.contains name) program)

/-- The world of an installation. -/
def standard : World where
  read := Script.readProgram
  classes := Demo.classes.1
  loaded := .ofList (InstalledModule.all.map (fun m => (m.name, installed m)) ++
    loadedNames.map fun name => (name, foreign name))
  early := .ofList (earlyNames.map outside)
  late := .ofList (lateNames.map outside)

end World

/-- The standard world without files, in an empty environment. -/
def Surroundings.bare : Surroundings := ⟨.standard, ⟨[]⟩, .empty⟩

end Errata
