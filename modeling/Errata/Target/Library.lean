import Errata.Script.Member

/-!
# The modules of the language

The names that some modules of the language have, beside those that every module has. The parts of a package count as
names of it, whether they are loaded or not.
-/

namespace Errata.World

/-- The names of a module, in some rows. -/
def libraryRows : List (String × List String) := [
  ("abc", [
    "ABC ABCMeta _abc_init _abc_instancecheck _abc_register _abc_subclasscheck _get_dump _reset_caches",
    "_reset_registry abstractclassmethod abstractmethod abstractproperty abstractstaticmethod get_cache_token",
    "update_abstractmethods"]),
  ("base64", [
    "MAXBINSIZE MAXLINESIZE _85encode _A85END _A85START _B32_DECODE_DOCSTRING _B32_DECODE_MAP01_DOCSTRING",
    "_B32_ENCODE_DOCSTRING __all__ _a85chars _a85chars2 _b32alphabet _b32decode _b32encode _b32hexalphabet _b32rev",
    "_b32tab2 _b85alphabet _b85chars _b85chars2 _b85dec _bytes_from_decode_data _input_type_check",
    "_urlsafe_decode_translation _urlsafe_encode_translation a85decode a85encode b16decode b16encode b32decode",
    "b32encode b32hexdecode b32hexencode b64decode b64encode b85decode b85encode binascii bytes_types decode",
    "decodebytes encode encodebytes main re standard_b64decode standard_b64encode struct test urlsafe_b64decode",
    "urlsafe_b64encode"]),
  ("binascii", [
    "Error Incomplete a2b_base64 a2b_hex a2b_qp a2b_uu b2a_base64 b2a_hex b2a_qp b2a_uu crc32 crc_hqx hexlify",
    "unhexlify"]),
  ("bisect", [
    "bisect bisect_left bisect_right insort insort_left insort_right"]),
  ("builtins", [
    "ArithmeticError AssertionError AttributeError BaseException BaseExceptionGroup BlockingIOError BrokenPipeError",
    "BufferError BytesWarning ChildProcessError ConnectionAbortedError ConnectionError ConnectionRefusedError",
    "ConnectionResetError DeprecationWarning EOFError Ellipsis EncodingWarning EnvironmentError Exception",
    "ExceptionGroup False FileExistsError FileNotFoundError FloatingPointError FutureWarning GeneratorExit IOError",
    "ImportError ImportWarning IndentationError IndexError InterruptedError IsADirectoryError KeyError",
    "KeyboardInterrupt LookupError MemoryError ModuleNotFoundError NameError None NotADirectoryError NotImplemented",
    "NotImplementedError OSError OverflowError PendingDeprecationWarning PermissionError ProcessLookupError",
    "RecursionError ReferenceError ResourceWarning RuntimeError RuntimeWarning StopAsyncIteration StopIteration",
    "SyntaxError SyntaxWarning SystemError SystemExit TabError TimeoutError True TypeError UnboundLocalError",
    "UnicodeDecodeError UnicodeEncodeError UnicodeError UnicodeTranslateError UnicodeWarning UserWarning ValueError",
    "Warning ZeroDivisionError __build_class__ __debug__ __import__ abs aiter all anext any ascii bin bool breakpoint",
    "bytearray bytes callable chr classmethod compile complex copyright credits delattr dict dir divmod enumerate",
    "eval exec exit filter float format frozenset getattr globals hasattr hash help hex id input int isinstance",
    "issubclass iter len license list locals map max memoryview min next object oct open ord pow print property quit",
    "range repr reversed round set setattr slice sorted staticmethod str sum super tuple type vars zip"]),
  ("calendar", [
    "Calendar EPOCH FRIDAY February HTMLCalendar IllegalMonthError IllegalWeekdayError January LocaleHTMLCalendar",
    "LocaleTextCalendar MONDAY SATURDAY SUNDAY THURSDAY TUESDAY TextCalendar WEDNESDAY _EPOCH_ORD __all__ _colwidth",
    "_get_default_locale _locale _localized_day _localized_month _monthlen _nextmonth _prevmonth _spacing c calendar",
    "datetime day_abbr day_name different_locale error firstweekday format formatstring isleap leapdays main mdays",
    "month month_abbr month_name monthcalendar monthrange prcal prmonth prweek repeat setfirstweekday sys timegm week",
    "weekday weekheader"]),
  ("collections", [
    "ChainMap Counter OrderedDict UserDict UserList UserString _Link _OrderedDictItemsView _OrderedDictKeysView",
    "_OrderedDictValuesView __all__ _chain _collections_abc _count_elements _eq _iskeyword _itemgetter _proxy",
    "_recursive_repr _repeat _starmap _sys _tuplegetter abc defaultdict deque namedtuple"]),
  ("collections.abc", [
    "AsyncGenerator AsyncIterable AsyncIterator Awaitable ByteString Callable Collection Container Coroutine",
    "Generator Hashable ItemsView Iterable Iterator KeysView Mapping MappingView MutableMapping MutableSequence",
    "MutableSet Reversible Sequence Set Sized ValuesView _CallableGenericAlias __all__"]),
  ("contextlib", [
    "AbstractAsyncContextManager AbstractContextManager AsyncContextDecorator AsyncExitStack ContextDecorator",
    "ExitStack GenericAlias MethodType _AsyncGeneratorContextManager _BaseExitStack _GeneratorContextManager",
    "_GeneratorContextManagerBase _RedirectStream __all__ _collections_abc abc aclosing asynccontextmanager chdir",
    "closing contextmanager deque nullcontext os redirect_stderr redirect_stdout suppress sys wraps"]),
  ("contextvars", [
    "Context ContextVar Token __all__ copy_context"]),
  ("copy", [
    "Error __all__ _copy_dispatch _copy_immutable _deepcopy_atomic _deepcopy_dict _deepcopy_dispatch _deepcopy_list",
    "_deepcopy_method _deepcopy_tuple _keep_alive _reconstruct copy deepcopy dispatch_table error"]),
  ("csv", [
    "Dialect DictReader DictWriter Error QUOTE_ALL QUOTE_MINIMAL QUOTE_NONE QUOTE_NONNUMERIC Sniffer StringIO",
    "_Dialect __all__ __version__ excel excel_tab field_size_limit get_dialect list_dialects re reader",
    "register_dialect unix_dialect unregister_dialect writer"]),
  ("dataclasses", [
    "Field FrozenInstanceError FunctionType GenericAlias InitVar KW_ONLY MISSING _DataclassParams _EMPTY_METADATA",
    "_FIELD _FIELDS _FIELD_BASE _FIELD_CLASSVAR _FIELD_INITVAR _HAS_DEFAULT_FACTORY _HAS_DEFAULT_FACTORY_CLASS",
    "_KW_ONLY_TYPE _MISSING_TYPE _MODULE_IDENTIFIER_RE _PARAMS _POST_INIT_NAME __all__ _add_slots _asdict_inner",
    "_astuple_inner _cmp_fn _create_fn _dataclass_getstate _dataclass_setstate _field_assign _field_init",
    "_fields_in_init_order _frozen_get_del_attr _get_field _get_slots _hash_action _hash_add _hash_exception _hash_fn",
    "_hash_set_none _init_fn _init_param _is_classvar _is_dataclass_instance _is_initvar _is_kw_only _is_type",
    "_process_class _recursive_repr _repr_fn _set_new_attribute _set_qualname _thread _tuple_str abc asdict astuple",
    "builtins copy dataclass field fields functools inspect is_dataclass itertools keyword make_dataclass re replace",
    "sys types"]),
  ("datetime", [
    "MAXYEAR MINYEAR UTC __all__ date datetime datetime_CAPI sys time timedelta timezone tzinfo"]),
  ("decimal", [
    "BasicContext Clamped Context ConversionSyntax Decimal DecimalException DecimalTuple DefaultContext",
    "DivisionByZero DivisionImpossible DivisionUndefined ExtendedContext FloatOperation HAVE_CONTEXTVAR HAVE_THREADS",
    "Inexact InvalidContext InvalidOperation MAX_EMAX MAX_PREC MIN_EMIN MIN_ETINY Overflow ROUND_05UP ROUND_CEILING",
    "ROUND_DOWN ROUND_FLOOR ROUND_HALF_DOWN ROUND_HALF_EVEN ROUND_HALF_UP ROUND_UP Rounded Subnormal Underflow",
    "__libmpdec_version__ __version__ getcontext localcontext setcontext"]),
  ("enum", [
    "CONFORM CONTINUOUS DynamicClassAttribute EJECT Enum EnumCheck EnumMeta EnumType Flag FlagBoundary IntEnum",
    "IntFlag KEEP MappingProxyType NAMED_FLAGS ReprEnum STRICT StrEnum UNIQUE _EnumDict __all__ _auto_null _dedent",
    "_high_bit _is_descriptor _is_dunder _is_internal_class _is_private _is_single_bit _is_sunder _iter_bits_lsb",
    "_make_class_unpicklable _old_convert_ _or_ _power_of_two _proto_member _reduce_ex_by_global_name _simple_enum",
    "_stdlib_enums _test_simple_enum auto bin bltns global_enum global_enum_repr global_flag_repr global_str member",
    "nonmember pickle_by_enum_name pickle_by_global_name property reduce show_flag_values sys unique verify"]),
  ("fractions", [
    "Decimal Fraction _PyHASH_INF _PyHASH_MODULUS _RATIONAL_FORMAT __all__ math numbers operator re sys"]),
  ("functools", [
    "GenericAlias RLock WRAPPER_ASSIGNMENTS WRAPPER_UPDATES _CacheInfo _HashedSeq _NOT_FOUND __all__ _c3_merge",
    "_c3_mro _compose_mro _convert _find_impl _ge_from_gt _ge_from_le _ge_from_lt _gt_from_ge _gt_from_le _gt_from_lt",
    "_initial_missing _le_from_ge _le_from_gt _le_from_lt _lru_cache_wrapper _lt_from_ge _lt_from_gt _lt_from_le",
    "_make_key _unwrap_partial cache cached_property cmp_to_key get_cache_token lru_cache namedtuple partial",
    "partialmethod recursive_repr reduce singledispatch singledispatchmethod total_ordering update_wrapper wraps"]),
  ("hashlib", [
    "__all__ __block_openssl_constructor __builtin_constructor_cache __get_builtin_constructor _hashlib",
    "algorithms_available algorithms_guaranteed blake2b blake2s file_digest md5 new pbkdf2_hmac scrypt sha1 sha224",
    "sha256 sha384 sha3_224 sha3_256 sha3_384 sha3_512 sha512 shake_128 shake_256"]),
  ("heapq", [
    "__about__ __all__ _heapify_max _heappop_max _heapreplace_max _siftdown _siftdown_max _siftup _siftup_max heapify",
    "heappop heappush heappushpop heapreplace merge nlargest nsmallest"]),
  ("html", [
    "__all__ _charref _html5 _invalid_charrefs _invalid_codepoints _re _replace_charref entities escape parser",
    "unescape"]),
  ("http", [
    "HTTPMethod HTTPStatus IntEnum StrEnum __all__ _simple_enum client cookiejar cookies server"]),
  ("inspect", [
    "ArgInfo Arguments Attribute BlockFinder BoundArguments CORO_CLOSED CORO_CREATED CORO_RUNNING CORO_SUSPENDED",
    "CO_ASYNC_GENERATOR CO_COROUTINE CO_GENERATOR CO_ITERABLE_COROUTINE CO_NESTED CO_NEWLOCALS CO_NOFREE CO_OPTIMIZED",
    "CO_VARARGS CO_VARKEYWORDS ClassFoundException ClosureVars EndOfBlock FrameInfo FullArgSpec GEN_CLOSED",
    "GEN_CREATED GEN_RUNNING GEN_SUSPENDED OrderedDict Parameter Signature TPFLAGS_IS_ABSTRACT Traceback _ClassFinder",
    "_FrameInfo _KEYWORD_ONLY _NonUserDefinedCallables _POSITIONAL_ONLY _POSITIONAL_OR_KEYWORD _ParameterKind",
    "_Traceback _VAR_KEYWORD _VAR_POSITIONAL __all__ __author__ _check_class _check_instance _descriptor_get _empty",
    "_filesbymodname _findclass _finddoc _get_code_position _get_code_position_from_tb _getmembers _has_code_flag",
    "_is_type _main _missing_arguments _sentinel _shadowed_dict _signature_bound_method _signature_from_builtin",
    "_signature_from_callable _signature_from_function _signature_fromstr _signature_get_partial",
    "_signature_get_user_defined_method _signature_is_builtin _signature_is_functionlike",
    "_signature_strip_non_python_syntax _static_getmro _too_many _void abc ast attrgetter builtins",
    "classify_class_attrs cleandoc collections currentframe dis enum findsource formatannotation",
    "formatannotationrelativeto formatargvalues functools get_annotations getabsfile getargs getargvalues",
    "getattr_static getblock getcallargs getclasstree getclosurevars getcomments getcoroutinelocals getcoroutinestate",
    "getdoc getfile getframeinfo getfullargspec getgeneratorlocals getgeneratorstate getinnerframes getlineno",
    "getmembers getmembers_static getmodule getmodulename getmro getouterframes getsource getsourcefile",
    "getsourcelines importlib indentsize isabstract isasyncgen isasyncgenfunction isawaitable isbuiltin isclass",
    "iscode iscoroutine iscoroutinefunction isdatadescriptor isframe isfunction isgenerator isgeneratorfunction",
    "isgetsetdescriptor iskeyword ismemberdescriptor ismethod ismethoddescriptor ismethodwrapper ismodule isroutine",
    "istraceback itertools linecache modulesbyfile namedtuple os re signature stack sys token tokenize trace types",
    "unwrap walktree"]),
  ("io", [
    "BlockingIOError BufferedIOBase BufferedRWPair BufferedRandom BufferedReader BufferedWriter BytesIO",
    "DEFAULT_BUFFER_SIZE FileIO IOBase IncrementalNewlineDecoder RawIOBase SEEK_CUR SEEK_END SEEK_SET StringIO",
    "TextIOBase TextIOWrapper UnsupportedOperation __all__ __author__ __getattr__ _io abc open open_code",
    "text_encoding"]),
  ("itertools", [
    "_grouper _tee _tee_dataobject accumulate chain combinations combinations_with_replacement compress count cycle",
    "dropwhile filterfalse groupby islice pairwise permutations product repeat starmap takewhile tee zip_longest"]),
  ("json", [
    "JSONDecodeError JSONDecoder JSONEncoder __all__ __author__ __version__ _default_decoder _default_encoder codecs",
    "decoder detect_encoding dump dumps encoder load loads scanner tool"]),
  ("keyword", [
    "__all__ iskeyword issoftkeyword kwlist softkwlist"]),
  ("logging", [
    "BASIC_FORMAT BufferingFormatter CRITICAL DEBUG ERROR FATAL FileHandler Filter Filterer Formatter GenericAlias",
    "Handler INFO LogRecord Logger LoggerAdapter Manager NOTSET NullHandler PercentStyle PlaceHolder RootLogger",
    "StrFormatStyle StreamHandler StringTemplateStyle Template WARN WARNING _STYLES _StderrHandler __all__ __author__",
    "__date__ __status__ __version__ _acquireLock _addHandlerRef _after_at_fork_child_reinit_locks",
    "_at_fork_reinit_lock_weakset _checkLevel _defaultFormatter _defaultLastResort _handlerList _handlers",
    "_is_internal_frame _levelToName _lock _logRecordFactory _loggerClass _nameToLevel _register_at_fork_reinit_lock",
    "_releaseLock _removeHandlerRef _showwarning _srcfile _startTime _str_formatter _warnings_showwarning",
    "addLevelName atexit basicConfig captureWarnings collections config critical currentframe debug disable error",
    "exception fatal getLevelName getLevelNamesMapping getLogRecordFactory getLogger getLoggerClass handlers info io",
    "lastResort log logMultiprocessing logProcesses logThreads makeLogRecord os raiseExceptions re root",
    "setLogRecordFactory setLoggerClass shutdown sys threading time traceback warn warning warnings weakref"]),
  ("math", [
    "acos acosh asin asinh atan atan2 atanh cbrt ceil comb copysign cos cosh degrees dist e erf erfc exp exp2 expm1",
    "fabs factorial floor fmod frexp fsum gamma gcd hypot inf isclose isfinite isinf isnan isqrt lcm ldexp lgamma log",
    "log10 log1p log2 modf nan nextafter perm pi pow prod radians remainder sin sinh sqrt tan tanh tau trunc ulp"]),
  ("numbers", [
    "ABCMeta Complex Integral Number Rational Real __all__ abstractmethod"]),
  ("operator", [
    "__abs__ __add__ __all__ __and__ __call__ __concat__ __contains__ __delitem__ __eq__ __floordiv__ __ge__",
    "__getitem__ __gt__ __iadd__ __iand__ __iconcat__ __ifloordiv__ __ilshift__ __imatmul__ __imod__ __imul__",
    "__index__ __inv__ __invert__ __ior__ __ipow__ __irshift__ __isub__ __itruediv__ __ixor__ __le__ __lshift__",
    "__lt__ __matmul__ __mod__ __mul__ __ne__ __neg__ __not__ __or__ __pos__ __pow__ __rshift__ __setitem__ __sub__",
    "__truediv__ __xor__ _abs abs add and_ attrgetter call concat contains countOf delitem eq floordiv ge getitem gt",
    "iadd iand iconcat ifloordiv ilshift imatmul imod imul index indexOf inv invert ior ipow irshift is_ is_not isub",
    "itemgetter itruediv ixor le length_hint lshift lt matmul methodcaller mod mul ne neg not_ or_ pos pow rshift",
    "setitem sub truediv truth xor"]),
  ("os", [
    "CLD_CONTINUED CLD_DUMPED CLD_EXITED CLD_KILLED CLD_STOPPED CLD_TRAPPED DirEntry EFD_CLOEXEC EFD_NONBLOCK",
    "EFD_SEMAPHORE EX_CANTCREAT EX_CONFIG EX_DATAERR EX_IOERR EX_NOHOST EX_NOINPUT EX_NOPERM EX_NOUSER EX_OK EX_OSERR",
    "EX_OSFILE EX_PROTOCOL EX_SOFTWARE EX_TEMPFAIL EX_UNAVAILABLE EX_USAGE F_LOCK F_OK F_TEST F_TLOCK F_ULOCK",
    "GenericAlias Mapping MutableMapping NGROUPS_MAX O_ACCMODE O_APPEND O_ASYNC O_CLOEXEC O_CREAT O_DIRECT",
    "O_DIRECTORY O_DSYNC O_EXCL O_FSYNC O_LARGEFILE O_NDELAY O_NOATIME O_NOCTTY O_NOFOLLOW O_NONBLOCK O_PATH O_RDONLY",
    "O_RDWR O_RSYNC O_SYNC O_TMPFILE O_TRUNC O_WRONLY POSIX_FADV_DONTNEED POSIX_FADV_NOREUSE POSIX_FADV_NORMAL",
    "POSIX_FADV_RANDOM POSIX_FADV_SEQUENTIAL POSIX_FADV_WILLNEED POSIX_SPAWN_CLOSE POSIX_SPAWN_DUP2 POSIX_SPAWN_OPEN",
    "PRIO_PGRP PRIO_PROCESS PRIO_USER P_ALL P_NOWAIT P_NOWAITO P_PGID P_PID P_WAIT PathLike RTLD_DEEPBIND RTLD_GLOBAL",
    "RTLD_LAZY RTLD_LOCAL RTLD_NODELETE RTLD_NOLOAD RTLD_NOW R_OK SCHED_BATCH SCHED_FIFO SCHED_IDLE SCHED_OTHER",
    "SCHED_RESET_ON_FORK SCHED_RR SEEK_CUR SEEK_DATA SEEK_END SEEK_HOLE SEEK_SET SPLICE_F_MORE SPLICE_F_MOVE",
    "SPLICE_F_NONBLOCK ST_APPEND ST_MANDLOCK ST_NOATIME ST_NODEV ST_NODIRATIME ST_NOEXEC ST_NOSUID ST_RDONLY",
    "ST_RELATIME ST_SYNCHRONOUS ST_WRITE TMP_MAX WCONTINUED WCOREDUMP WEXITED WEXITSTATUS WIFCONTINUED WIFEXITED",
    "WIFSIGNALED WIFSTOPPED WNOHANG WNOWAIT WSTOPPED WSTOPSIG WTERMSIG WUNTRACED W_OK XATTR_CREATE XATTR_REPLACE",
    "XATTR_SIZE_MAX X_OK _Environ __all__ _check_methods _execvpe _exists _exit _fspath _fwalk _get_exports_list",
    "_spawnvef _walk _wrap_close abc abort access altsep chdir chmod chown chroot close closerange confstr",
    "confstr_names cpu_count ctermid curdir defpath device_encoding devnull dup dup2 environ environb error eventfd",
    "eventfd_read eventfd_write execl execle execlp execlpe execv execve execvp execvpe extsep fchdir fchmod fchown",
    "fdatasync fdopen fork forkpty fpathconf fsdecode fsencode fspath fstat fstatvfs fsync ftruncate fwalk",
    "get_blocking get_exec_path get_inheritable get_terminal_size getcwd getcwdb getegid getenv getenvb geteuid",
    "getgid getgrouplist getgroups getloadavg getlogin getpgid getpgrp getpid getppid getpriority getresgid getresuid",
    "getsid getuid getxattr initgroups isatty kill killpg lchown linesep link listdir listxattr lockf login_tty lseek",
    "lstat major makedev makedirs minor mkdir mkfifo mknod name nice open openpty pardir path pathconf pathconf_names",
    "pathsep pipe pipe2 popen posix_fadvise posix_fallocate posix_spawn posix_spawnp pread preadv putenv pwrite",
    "pwritev read readlink readv register_at_fork remove removedirs removexattr rename renames replace rmdir scandir",
    "sched_get_priority_max sched_get_priority_min sched_getaffinity sched_getparam sched_getscheduler sched_param",
    "sched_rr_get_interval sched_setaffinity sched_setparam sched_setscheduler sched_yield sendfile sep set_blocking",
    "set_inheritable setegid seteuid setgid setgroups setpgid setpgrp setpriority setregid setresgid setresuid",
    "setreuid setsid setuid setxattr spawnl spawnle spawnlp spawnlpe spawnv spawnve spawnvp spawnvpe splice st stat",
    "stat_result statvfs statvfs_result strerror supports_bytes_environ supports_dir_fd supports_effective_ids",
    "supports_fd supports_follow_symlinks symlink sync sys sysconf sysconf_names system tcgetpgrp tcsetpgrp",
    "terminal_size times times_result truncate ttyname umask uname uname_result unlink unsetenv urandom utime wait",
    "wait3 wait4 waitid waitid_result waitpid waitstatus_to_exitcode walk write writev"]),
  ("pathlib", [
    "EBADF ELOOP ENOENT ENOTDIR Path PosixPath PurePath PurePosixPath PureWindowsPath S_ISBLK S_ISCHR S_ISDIR",
    "S_ISFIFO S_ISLNK S_ISREG S_ISSOCK Sequence WindowsPath _Flavour _IGNORED_ERRNOS _IGNORED_WINERRORS _PathParents",
    "_PosixFlavour _PreciseSelector _RecursiveWildcardSelector _Selector _TerminatingSelector",
    "_WINERROR_CANT_RESOLVE_FILENAME _WINERROR_INVALID_NAME _WINERROR_NOT_READY _WildcardSelector _WindowsFlavour",
    "__all__ _ignore_error _is_wildcard_pattern _make_selector _posix_flavour _windows_flavour attrgetter fnmatch",
    "functools io ntpath os posixpath re sys urlquote_from_bytes warnings"]),
  ("pprint", [
    "PrettyPrinter _StringIO __all__ _builtin_scalars _collections _dataclasses _perfcheck _recursion _safe_key",
    "_safe_tuple _sys _types _wrap_bytes_repr isreadable isrecursive pformat pp pprint re saferepr"]),
  ("queue", [
    "Empty Full LifoQueue PriorityQueue Queue SimpleQueue _PySimpleQueue __all__ deque heappop heappush threading",
    "time types"]),
  ("random", [
    "BPF LOG4 NV_MAGICCONST RECIP_BPF Random SG_MAGICCONST SystemRandom TWOPI _ONE _Sequence _Set __all__ _accumulate",
    "_acos _bisect _ceil _cos _e _exp _floor _index _inst _isfinite _log _os _pi _random _repeat _sha512 _sin _sqrt",
    "_test _test_generator _urandom _warn betavariate choice choices expovariate gammavariate gauss getrandbits",
    "getstate lognormvariate normalvariate paretovariate randbytes randint random randrange sample seed setstate",
    "shuffle triangular uniform vonmisesvariate weibullvariate"]),
  ("re", [
    "A ASCII DEBUG DOTALL I IGNORECASE L LOCALE M MULTILINE Match NOFLAG Pattern RegexFlag S Scanner T TEMPLATE U",
    "UNICODE VERBOSE X _MAXCACHE __all__ __version__ _cache _casefix _compile _compile_repl _compiler _constants",
    "_expand _parser _pickle _special_chars_map _subx compile copyreg enum error escape findall finditer fullmatch",
    "functools match purge search split sub subn template"]),
  ("secrets", [
    "DEFAULT_ENTROPY SystemRandom __all__ _sysrand base64 binascii choice compare_digest randbelow randbits",
    "token_bytes token_hex token_urlsafe"]),
  ("statistics", [
    "Counter Decimal Fraction LinearRegression NormalDist StatisticsError _SQRT2 __all__ __annotations__ _coerce",
    "_convert _decimal_sqrt_of_frac _exact_ratio _fail_neg _float_sqrt_of_frac _integer_sqrt_of_frac_rto _isfinite",
    "_mean_stdev _normal_dist_inv_cdf _sqrt_bit_width _ss _sum bisect_left bisect_right correlation covariance",
    "defaultdict erf exp fabs fmean fsum geometric_mean groupby harmonic_mean hypot linear_regression log math mean",
    "median median_grouped median_high median_low mode mul multimode namedtuple numbers pstdev pvariance quantiles",
    "random reduce repeat sqrt stdev sys tau variance"]),
  ("string", [
    "Formatter Template _ChainMap __all__ _re _sentinel_dict _string ascii_letters ascii_lowercase ascii_uppercase",
    "capwords digits hexdigits octdigits printable punctuation whitespace"]),
  ("struct", [
    "Struct __all__ _clearcache calcsize error iter_unpack pack pack_into unpack unpack_from"]),
  ("sys", [
    "__breakpointhook__ __displayhook__ __excepthook__ __interactivehook__ __stderr__ __stdin__ __stdout__",
    "__unraisablehook__ _base_executable _clear_type_cache _current_exceptions _current_frames _debugmallocstats",
    "_framework _getframe _getquickenedcount _git _home _stdlib_dir _xoptions abiflags addaudithook api_version argv",
    "audit base_exec_prefix base_prefix breakpointhook builtin_module_names byteorder call_tracing copyright",
    "displayhook dont_write_bytecode exc_info excepthook exception exec_prefix executable exit flags float_info",
    "float_repr_style get_asyncgen_hooks get_coroutine_origin_tracking_depth get_int_max_str_digits",
    "getallocatedblocks getdefaultencoding getdlopenflags getfilesystemencodeerrors getfilesystemencoding getprofile",
    "getrecursionlimit getrefcount getsizeof getswitchinterval gettrace hash_info hexversion implementation int_info",
    "intern is_finalizing maxsize maxunicode meta_path modules orig_argv path path_hooks path_importer_cache platform",
    "platlibdir prefix pycache_prefix set_asyncgen_hooks set_coroutine_origin_tracking_depth set_int_max_str_digits",
    "setdlopenflags setprofile setrecursionlimit setswitchinterval settrace stderr stdin stdlib_module_names stdout",
    "thread_info unraisablehook version version_info warnoptions"]),
  ("textwrap", [
    "TextWrapper __all__ _leading_whitespace_re _whitespace _whitespace_only_re dedent fill indent re shorten wrap"]),
  ("threading", [
    "Barrier BoundedSemaphore BrokenBarrierError Condition Event ExceptHookArgs Lock RLock Semaphore TIMEOUT_MAX",
    "Thread ThreadError Timer WeakSet _CRLock _DummyThread _HAVE_THREAD_NATIVE_ID _MainThread _PyRLock _RLock",
    "_SHUTTING_DOWN __all__ __excepthook__ _active _active_limbo_lock _after_fork _allocate_lock _count _counter",
    "_dangling _deque _enumerate _islice _limbo _main_thread _maintain_shutdown_locks _make_invoke_excepthook",
    "_newname _os _profile_hook _register_atexit _set_sentinel _shutdown _shutdown_locks _shutdown_locks_lock",
    "_start_new_thread _sys _threading_atexits _time _trace_hook activeCount active_count currentThread",
    "current_thread enumerate excepthook functools get_ident get_native_id getprofile gettrace local main_thread",
    "setprofile settrace stack_size"]),
  ("time", [
    "CLOCK_BOOTTIME CLOCK_MONOTONIC CLOCK_MONOTONIC_RAW CLOCK_PROCESS_CPUTIME_ID CLOCK_REALTIME",
    "CLOCK_THREAD_CPUTIME_ID _STRUCT_TM_ITEMS altzone asctime clock_getres clock_gettime clock_gettime_ns",
    "clock_settime clock_settime_ns ctime daylight get_clock_info gmtime localtime mktime monotonic monotonic_ns",
    "perf_counter perf_counter_ns process_time process_time_ns pthread_getcpuclockid sleep strftime strptime",
    "struct_time thread_time thread_time_ns time time_ns timezone tzname tzset"]),
  ("traceback", [
    "FrameSummary StackSummary TracebackException _Anchors _ExceptionPrintContext _RECURSIVE_CUTOFF _Sentinel",
    "_WIDE_CHAR_SPECIFIERS __all__ _byte_offset_to_character_offset _cause_message _context_message _display_width",
    "_extract_caret_anchors_from_line_segment _format_final_exc_line _get_code_position _parse_value_tb _safe_string",
    "_sentinel _walk_tb_with_full_positions clear_frames collections extract_stack extract_tb format_exc",
    "format_exception format_exception_only format_list format_stack format_tb itertools linecache print_exc",
    "print_exception print_last print_list print_stack print_tb suppress sys textwrap walk_stack walk_tb"]),
  ("types", [
    "AsyncGeneratorType BuiltinFunctionType BuiltinMethodType CellType ClassMethodDescriptorType CodeType",
    "CoroutineType DynamicClassAttribute EllipsisType FrameType FunctionType GeneratorType GenericAlias",
    "GetSetDescriptorType LambdaType MappingProxyType MemberDescriptorType MethodDescriptorType MethodType",
    "MethodWrapperType ModuleType NoneType NotImplementedType SimpleNamespace TracebackType UnionType",
    "WrapperDescriptorType _GeneratorWrapper __all__ _calculate_meta _cell_factory coroutine new_class prepare_class",
    "resolve_bases"]),
  ("typing", [
    "ABCMeta AbstractSet Annotated Any AnyStr AsyncContextManager AsyncGenerator AsyncIterable AsyncIterator",
    "Awaitable BinaryIO ByteString CT_co Callable ChainMap ClassVar Collection Concatenate Container ContextManager",
    "Coroutine Counter DefaultDict Deque Dict EXCLUDED_ATTRIBUTES Final ForwardRef FrozenSet Generator Generic",
    "GenericAlias Hashable IO ItemsView Iterable Iterator KT KeysView List Literal LiteralString Mapping MappingView",
    "Match MethodDescriptorType MethodWrapperType MutableMapping MutableSequence MutableSet NamedTuple NamedTupleMeta",
    "Never NewType NoReturn NotRequired Optional OrderedDict ParamSpec ParamSpecArgs ParamSpecKwargs Pattern Protocol",
    "Required Reversible Self Sequence Set Sized SupportsAbs SupportsBytes SupportsComplex SupportsFloat",
    "SupportsIndex SupportsInt SupportsRound T TYPE_CHECKING T_co T_contra Text TextIO Tuple Type TypeAlias TypeGuard",
    "TypeVar TypeVarTuple TypedDict Union Unpack VT VT_co V_co ValuesView WrapperDescriptorType",
    "_ASSERT_NEVER_REPR_MAX_LENGTH _AnnotatedAlias _AnyMeta _BaseGenericAlias _BoundVarianceMixin",
    "_CallableGenericAlias _CallableType _ConcatenateGenericAlias _DeprecatedType _Final _GenericAlias _Immutable",
    "_LiteralGenericAlias _LiteralSpecialForm _NamedTuple _NotIterable _PROTO_ALLOWLIST _PickleUsingNameMixin",
    "_ProtocolMeta _SPECIAL_NAMES _SpecialForm _SpecialGenericAlias _TYPING_INTERNALS _TupleType _TypedDict",
    "_TypedDictMeta _TypingEllipsis _UnionGenericAlias _UnpackGenericAlias __all__ _alias",
    "_allow_reckless_class_checks _allowed_types _caller _check_generic _cleanups _collect_parameters",
    "_compare_args_orderless _deduplicate _deduplicate_unhashable _eval_type _flatten_literal_params",
    "_get_protocol_attrs _idfunc _is_callable_members_only _is_dunder _is_param_expr _is_typevar_like",
    "_is_unpacked_typevartuple _make_nmtuple _namedtuple_mro_entries _no_init_or_replace_init _overload_dummy",
    "_overload_registry _prohibited _remove_dups_flatten _should_unflatten_callable_args _special _strip_annotations",
    "_tp_cache _type_check _type_convert _type_repr _unpack_args _value_and_type_iter abstractmethod assert_never",
    "assert_type cast clear_overloads collections contextlib dataclass_transform defaultdict final functools get_args",
    "get_origin get_overloads get_type_hints io is_typeddict no_type_check no_type_check_decorator operator overload",
    "re reveal_type runtime_checkable stdlib_re sys types warnings"]),
  ("urllib.parse", [
    "DefragResult DefragResultBytes ParseResult ParseResultBytes ResultBase SplitResult SplitResultBytes _ALWAYS_SAFE",
    "_ALWAYS_SAFE_BYTES _DefragResultBase _NetlocResultMixinBase _NetlocResultMixinBytes _NetlocResultMixinStr",
    "_ParseResultBase _Quoter _ResultMixinBytes _ResultMixinStr _SplitResultBase _UNSAFE_URL_BYTES_TO_REMOVE",
    "_WHATWG_C0_CONTROL_OR_SPACE __all__ __getattr__ _asciire _byte_quoter_factory _check_bracketed_host _checknetloc",
    "_coerce_args _decode_args _encode_result _hexdig _hextobyte _hostprog _implicit_encoding _implicit_errors _noop",
    "_portprog _splitattr _splithost _splitnetloc _splitnport _splitparams _splitpasswd _splitport _splitquery",
    "_splittag _splittype _splituser _splitvalue _to_bytes _typeprog clear_cache functools ipaddress namedtuple",
    "non_hierarchical parse_qs parse_qsl quote quote_from_bytes quote_plus re scheme_chars splitattr splithost",
    "splitnport splitpasswd splitport splitquery splittag splittype splituser splitvalue sys to_bytes types unquote",
    "unquote_plus unquote_to_bytes unwrap urldefrag urlencode urljoin urlparse urlsplit urlunparse urlunsplit",
    "uses_fragment uses_netloc uses_params uses_query uses_relative warnings"]),
  ("uuid", [
    "Enum NAMESPACE_DNS NAMESPACE_OID NAMESPACE_URL NAMESPACE_X500 RESERVED_FUTURE RESERVED_MICROSOFT RESERVED_NCS",
    "RFC_4122 SafeUUID UUID _AIX _GETTERS _LINUX _MAC_DELIM _MAC_OMITS_LEADING_ZEROES _OS_GETTERS _UuidCreate",
    "__author__ _arp_getnode _find_mac_near_keyword _find_mac_under_heading _generate_time_safe _get_command_stdout",
    "_has_uuid_generate_time_safe _ifconfig_getnode _ip_getnode _ipconfig_getnode _is_universal _lanscan_getnode",
    "_last_timestamp _load_system_functions _netbios_getnode _netstat_getnode _node _parse_mac _platform_system",
    "_random_getnode _simple_enum _unix_getnode _uuid _windll_getnode bytes_ getnode int_ os platform sys uuid1 uuid3",
    "uuid4 uuid5"]),
  ("warnings", [
    "WarningMessage _DEPRECATED_MSG _OptionError __all__ _add_filter _defaultaction _deprecated _filters_mutated",
    "_formatwarning_orig _formatwarnmsg _formatwarnmsg_impl _getaction _getcategory _is_internal_frame",
    "_next_external_frame _onceregistry _processoptions _setoption _showwarning_orig _showwarnmsg _showwarnmsg_impl",
    "_warn_unawaited_coroutine catch_warnings defaultaction filters filterwarnings formatwarning onceregistry",
    "resetwarnings showwarning simplefilter sys warn warn_explicit"]),
  ("weakref", [
    "CallableProxyType KeyedRef ProxyType ProxyTypes ReferenceType WeakKeyDictionary WeakMethod WeakSet",
    "WeakValueDictionary _IterationGuard __all__ _collections_abc _remove_dead_weakref finalize getweakrefcount",
    "getweakrefs itertools proxy ref sys"]),
  ("zoneinfo", [
    "InvalidTZPathWarning TZPATH ZoneInfo ZoneInfoNotFoundError __all__ __dir__ __getattr__ _common _tzpath _zoneinfo",
    "available_timezones reset_tzpath"])]

/-- The names of a module of the language, where they are known. -/
def libraryNames? (module : String) : Option (List String) :=
  (libraryRows.lookup module).map fun rows => rows.flatMap Script.wordsOf

end Errata.World
