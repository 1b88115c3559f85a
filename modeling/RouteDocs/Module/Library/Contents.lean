namespace RouteDocs.Module.Library

/-- What a module of the library holds, apart from exceptions, modules of its own and other names of
what every module can name: classes, other things that can be called, and all else. -/
structure ModuleInfo where
  path : String
  classes : String
  callables : String
  others : String

/-- The modules of the library of which all is known. -/
def contents : List ModuleInfo := [
  ⟨"os",
    "DirEntry Mapping MutableMapping PathLike _Environ __loader__ _wrap_close sched_param " ++
    "stat_result statvfs_result terminal_size times_result uname_result waitid_result",
    "WCOREDUMP WEXITSTATUS WIFCONTINUED WIFEXITED WIFSIGNALED WIFSTOPPED WSTOPSIG WTERMSIG " ++
    "_check_methods _execvpe _exists _exit _fspath _fwalk _get_exports_list _spawnvef _walk " ++
    "abort access chdir chmod chown chroot close closerange confstr cpu_count ctermid " ++
    "device_encoding dup dup2 eventfd eventfd_read eventfd_write execl execle execlp " ++
    "execlpe execv execve execvp execvpe fchdir fchmod fchown fdatasync fdopen fork forkpty " ++
    "fpathconf fsdecode fsencode fspath fstat fstatvfs fsync ftruncate fwalk get_blocking " ++
    "get_exec_path get_inheritable get_terminal_size getcwd getcwdb getegid getenv getenvb " ++
    "geteuid getgid getgrouplist getgroups getloadavg getlogin getpgid getpgrp getpid " ++
    "getppid getpriority getresgid getresuid getsid getuid getxattr initgroups isatty kill " ++
    "killpg lchown link listdir listxattr lockf login_tty lseek lstat major makedev " ++
    "makedirs minor mkdir mkfifo mknod nice open openpty pathconf pipe pipe2 popen " ++
    "posix_fadvise posix_fallocate posix_spawn posix_spawnp pread preadv putenv pwrite " ++
    "pwritev read readlink readv register_at_fork remove removedirs removexattr rename " ++
    "renames replace rmdir scandir sched_get_priority_max sched_get_priority_min " ++
    "sched_getaffinity sched_getparam sched_getscheduler sched_rr_get_interval " ++
    "sched_setaffinity sched_setparam sched_setscheduler sched_yield sendfile set_blocking " ++
    "set_inheritable setegid seteuid setgid setgroups setpgid setpgrp setpriority setregid " ++
    "setresgid setresuid setreuid setsid setuid setxattr spawnl spawnle spawnlp spawnlpe " ++
    "spawnv spawnve spawnvp spawnvpe splice stat statvfs strerror symlink sync sysconf " ++
    "system tcgetpgrp tcsetpgrp times truncate ttyname umask uname unlink unsetenv urandom " ++
    "utime wait wait3 wait4 waitid waitpid waitstatus_to_exitcode walk write writev",
    "CLD_CONTINUED CLD_DUMPED CLD_EXITED CLD_KILLED CLD_STOPPED CLD_TRAPPED EFD_CLOEXEC " ++
    "EFD_NONBLOCK EFD_SEMAPHORE EX_CANTCREAT EX_CONFIG EX_DATAERR EX_IOERR EX_NOHOST " ++
    "EX_NOINPUT EX_NOPERM EX_NOUSER EX_OK EX_OSERR EX_OSFILE EX_PROTOCOL EX_SOFTWARE " ++
    "EX_TEMPFAIL EX_UNAVAILABLE EX_USAGE F_LOCK F_OK F_TEST F_TLOCK F_ULOCK NGROUPS_MAX " ++
    "O_ACCMODE O_APPEND O_ASYNC O_CLOEXEC O_CREAT O_DIRECT O_DIRECTORY O_DSYNC O_EXCL " ++
    "O_FSYNC O_LARGEFILE O_NDELAY O_NOATIME O_NOCTTY O_NOFOLLOW O_NONBLOCK O_PATH O_RDONLY " ++
    "O_RDWR O_RSYNC O_SYNC O_TMPFILE O_TRUNC O_WRONLY POSIX_FADV_DONTNEED " ++
    "POSIX_FADV_NOREUSE POSIX_FADV_NORMAL POSIX_FADV_RANDOM POSIX_FADV_SEQUENTIAL " ++
    "POSIX_FADV_WILLNEED POSIX_SPAWN_CLOSE POSIX_SPAWN_DUP2 POSIX_SPAWN_OPEN PRIO_PGRP " ++
    "PRIO_PROCESS PRIO_USER P_ALL P_NOWAIT P_NOWAITO P_PGID P_PID P_WAIT RTLD_DEEPBIND " ++
    "RTLD_GLOBAL RTLD_LAZY RTLD_LOCAL RTLD_NODELETE RTLD_NOLOAD RTLD_NOW R_OK SCHED_BATCH " ++
    "SCHED_FIFO SCHED_IDLE SCHED_OTHER SCHED_RESET_ON_FORK SCHED_RR SEEK_CUR SEEK_DATA " ++
    "SEEK_END SEEK_HOLE SEEK_SET SPLICE_F_MORE SPLICE_F_MOVE SPLICE_F_NONBLOCK ST_APPEND " ++
    "ST_MANDLOCK ST_NOATIME ST_NODEV ST_NODIRATIME ST_NOEXEC ST_NOSUID ST_RDONLY " ++
    "ST_RELATIME ST_SYNCHRONOUS ST_WRITE TMP_MAX WCONTINUED WEXITED WNOHANG WNOWAIT " ++
    "WSTOPPED WUNTRACED W_OK XATTR_CREATE XATTR_REPLACE XATTR_SIZE_MAX X_OK __all__ " ++
    "__builtins__ __doc__ __file__ __name__ __package__ __spec__ abc altsep confstr_names " ++
    "curdir defpath devnull environ environb extsep linesep name pardir path pathconf_names " ++
    "pathsep sep st supports_bytes_environ supports_dir_fd supports_effective_ids " ++
    "supports_fd supports_follow_symlinks sys sysconf_names"⟩,
  ⟨"os.path",
    "__loader__",
    "_get_sep _joinrealpath _path_normpath abspath basename commonpath commonprefix dirname " ++
    "exists expanduser expandvars getatime getctime getmtime getsize isabs isdir isfile " ++
    "islink ismount join lexists normcase normpath realpath relpath samefile sameopenfile " ++
    "samestat split splitdrive splitext",
    "__all__ __builtins__ __doc__ __file__ __name__ __package__ __spec__ _varprog _varprogb " ++
    "altsep curdir defpath devnull extsep genericpath os pardir pathsep sep stat " ++
    "supports_unicode_filenames sys"⟩,
  ⟨"sys",
    "__loader__",
    "__breakpointhook__ __displayhook__ __excepthook__ __interactivehook__ " ++
    "__unraisablehook__ _clear_type_cache _current_exceptions _current_frames " ++
    "_debugmallocstats _getframe _getquickenedcount addaudithook audit breakpointhook " ++
    "call_tracing displayhook exc_info excepthook exception exit get_asyncgen_hooks " ++
    "get_coroutine_origin_tracking_depth get_int_max_str_digits getallocatedblocks " ++
    "getdefaultencoding getdlopenflags getfilesystemencodeerrors getfilesystemencoding " ++
    "getprofile getrecursionlimit getrefcount getsizeof getswitchinterval gettrace intern " ++
    "is_finalizing set_asyncgen_hooks set_coroutine_origin_tracking_depth " ++
    "set_int_max_str_digits setdlopenflags setprofile setrecursionlimit setswitchinterval " ++
    "settrace unraisablehook",
    "__doc__ __name__ __package__ __spec__ __stderr__ __stdin__ __stdout__ _base_executable " ++
    "_framework _git _home _stdlib_dir _xoptions abiflags api_version argv base_exec_prefix " ++
    "base_prefix builtin_module_names byteorder copyright dont_write_bytecode exec_prefix " ++
    "executable flags float_info float_repr_style hash_info hexversion implementation " ++
    "int_info maxsize maxunicode meta_path modules orig_argv path path_hooks " ++
    "path_importer_cache platform platlibdir prefix pycache_prefix stderr stdin " ++
    "stdlib_module_names stdout thread_info version version_info warnoptions"⟩,
  ⟨"json",
    "JSONDecoder JSONEncoder",
    "detect_encoding dump dumps load loads",
    "__all__ __author__ __builtins__ __cached__ __doc__ __file__ __loader__ __name__ " ++
    "__package__ __path__ __spec__ __version__ _default_decoder _default_encoder codecs"⟩,
  ⟨"json.decoder",
    "JSONDecoder",
    "JSONArray JSONObject _decode_uXXXX c_scanstring py_scanstring scanstring",
    "BACKSLASH FLAGS NaN NegInf PosInf STRINGCHUNK WHITESPACE WHITESPACE_STR _CONSTANTS " ++
    "__all__ __builtins__ __cached__ __doc__ __file__ __loader__ __name__ __package__ " ++
    "__spec__ re scanner"⟩,
  ⟨"re",
    "Match Pattern RegexFlag Scanner",
    "_compile _compile_repl _expand _pickle _subx compile escape findall finditer fullmatch " ++
    "match purge search split sub subn template",
    "A ASCII DEBUG DOTALL I IGNORECASE L LOCALE M MULTILINE NOFLAG S T TEMPLATE U UNICODE " ++
    "VERBOSE X _MAXCACHE __all__ __builtins__ __cached__ __doc__ __file__ __loader__ " ++
    "__name__ __package__ __path__ __spec__ __version__ _cache _special_chars_map copyreg " ++
    "enum functools"⟩,
  ⟨"math",
    "__loader__",
    "acos acosh asin asinh atan atan2 atanh cbrt ceil comb copysign cos cosh degrees dist " ++
    "erf erfc exp exp2 expm1 fabs factorial floor fmod frexp fsum gamma gcd hypot isclose " ++
    "isfinite isinf isnan isqrt lcm ldexp lgamma log log10 log1p log2 modf nextafter perm " ++
    "pow prod radians remainder sin sinh sqrt tan tanh trunc ulp",
    "__doc__ __name__ __package__ __spec__ e inf nan pi tau"⟩,
  ⟨"cmath",
    "__loader__",
    "acos acosh asin asinh atan atanh cos cosh exp isclose isfinite isinf isnan log log10 " ++
    "phase polar rect sin sinh sqrt tan tanh",
    "__doc__ __name__ __package__ __spec__ e inf infj nan nanj pi tau"⟩,
  ⟨"time",
    "__loader__ struct_time",
    "asctime clock_getres clock_gettime clock_gettime_ns clock_settime clock_settime_ns " ++
    "ctime get_clock_info gmtime localtime mktime monotonic monotonic_ns perf_counter " ++
    "perf_counter_ns process_time process_time_ns pthread_getcpuclockid sleep strftime " ++
    "strptime thread_time thread_time_ns time time_ns tzset",
    "CLOCK_BOOTTIME CLOCK_MONOTONIC CLOCK_MONOTONIC_RAW CLOCK_PROCESS_CPUTIME_ID " ++
    "CLOCK_REALTIME CLOCK_THREAD_CPUTIME_ID _STRUCT_TM_ITEMS __doc__ __name__ __package__ " ++
    "__spec__ altzone daylight timezone tzname"⟩,
  ⟨"datetime",
    "date datetime time timedelta timezone tzinfo",
    "",
    "MAXYEAR MINYEAR UTC __all__ __builtins__ __cached__ __doc__ __file__ __loader__ " ++
    "__name__ __package__ __spec__ datetime_CAPI sys"⟩,
  ⟨"collections",
    "ChainMap Counter OrderedDict UserDict UserList UserString _Link _OrderedDictItemsView " ++
    "_OrderedDictKeysView _OrderedDictValuesView _chain _itemgetter _repeat _starmap " ++
    "_tuplegetter defaultdict deque",
    "_count_elements _eq _iskeyword _proxy _recursive_repr namedtuple",
    "__all__ __builtins__ __cached__ __doc__ __file__ __loader__ __name__ __package__ " ++
    "__path__ __spec__ _collections_abc _sys"⟩,
  ⟨"collections.abc",
    "AsyncGenerator AsyncIterable AsyncIterator Awaitable ByteString Callable Collection " ++
    "Container Coroutine Generator Hashable ItemsView Iterable Iterator KeysView Mapping " ++
    "MappingView MutableMapping MutableSequence MutableSet Reversible Sequence Set Sized " ++
    "ValuesView _CallableGenericAlias",
    "",
    "__all__ __builtins__ __cached__ __doc__ __file__ __loader__ __name__ __package__ " ++
    "__spec__"⟩,
  ⟨"itertools",
    "__loader__ _grouper _tee _tee_dataobject accumulate chain combinations " ++
    "combinations_with_replacement compress count cycle dropwhile filterfalse groupby " ++
    "islice pairwise permutations product repeat starmap takewhile zip_longest",
    "tee",
    "__doc__ __name__ __package__ __spec__"⟩,
  ⟨"functools",
    "RLock _CacheInfo _HashedSeq _lru_cache_wrapper cached_property partial partialmethod " ++
    "singledispatchmethod",
    "_c3_merge _c3_mro _compose_mro _find_impl _ge_from_gt _ge_from_le _ge_from_lt " ++
    "_gt_from_ge _gt_from_le _gt_from_lt _le_from_ge _le_from_gt _le_from_lt _lt_from_ge " ++
    "_lt_from_gt _lt_from_le _make_key _unwrap_partial cache cmp_to_key get_cache_token " ++
    "lru_cache namedtuple recursive_repr reduce singledispatch total_ordering " ++
    "update_wrapper wraps",
    "WRAPPER_ASSIGNMENTS WRAPPER_UPDATES _NOT_FOUND __all__ __builtins__ __cached__ __doc__ " ++
    "__file__ __loader__ __name__ __package__ __spec__ _convert _initial_missing"⟩,
  ⟨"typing",
    "ABCMeta Annotated Any BinaryIO ForwardRef Generic IO NamedTupleMeta NewType ParamSpec " ++
    "ParamSpecArgs ParamSpecKwargs Protocol SupportsAbs SupportsBytes SupportsComplex " ++
    "SupportsFloat SupportsIndex SupportsInt SupportsRound TextIO TypeVar TypeVarTuple " ++
    "_AnnotatedAlias _AnyMeta _BaseGenericAlias _BoundVarianceMixin _CallableGenericAlias " ++
    "_CallableType _ConcatenateGenericAlias _DeprecatedType _Final _GenericAlias _Immutable " ++
    "_LiteralGenericAlias _LiteralSpecialForm _NamedTuple _NotIterable " ++
    "_PickleUsingNameMixin _ProtocolMeta _SpecialForm _SpecialGenericAlias _TupleType " ++
    "_TypedDict _TypedDictMeta _TypingEllipsis _UnionGenericAlias _UnpackGenericAlias " ++
    "_alias defaultdict io re",
    "AbstractSet AsyncContextManager AsyncGenerator AsyncIterable AsyncIterator Awaitable " ++
    "ByteString Callable ChainMap ClassVar Collection Concatenate Container ContextManager " ++
    "Coroutine Counter DefaultDict Deque Dict Final FrozenSet Generator Hashable ItemsView " ++
    "Iterable Iterator KeysView List Literal LiteralString Mapping MappingView Match " ++
    "MutableMapping MutableSequence MutableSet NamedTuple Never NoReturn NotRequired " ++
    "Optional OrderedDict Pattern Required Reversible Self Sequence Set Sized Tuple Type " ++
    "TypeAlias TypeGuard TypedDict Union Unpack ValuesView _allow_reckless_class_checks " ++
    "_caller _check_generic _collect_parameters _compare_args_orderless _deduplicate " ++
    "_deduplicate_unhashable _eval_type _flatten_literal_params _get_protocol_attrs _idfunc " ++
    "_is_callable_members_only _is_dunder _is_param_expr _is_typevar_like " ++
    "_is_unpacked_typevartuple _make_nmtuple _namedtuple_mro_entries " ++
    "_no_init_or_replace_init _overload_dummy _remove_dups_flatten " ++
    "_should_unflatten_callable_args _strip_annotations _tp_cache _type_check _type_convert " ++
    "_type_repr _unpack_args _value_and_type_iter abstractmethod assert_never assert_type " ++
    "cast clear_overloads dataclass_transform final get_args get_origin get_overloads " ++
    "get_type_hints is_typeddict no_type_check no_type_check_decorator overload reveal_type " ++
    "runtime_checkable",
    "AnyStr CT_co EXCLUDED_ATTRIBUTES KT T TYPE_CHECKING T_co T_contra VT VT_co V_co " ++
    "_ASSERT_NEVER_REPR_MAX_LENGTH _PROTO_ALLOWLIST _SPECIAL_NAMES _TYPING_INTERNALS " ++
    "__all__ __builtins__ __cached__ __doc__ __file__ __loader__ __name__ __package__ " ++
    "__spec__ _allowed_types _cleanups _overload_registry _prohibited _special collections " ++
    "contextlib functools operator stdlib_re sys types warnings"⟩,
  ⟨"abc",
    "ABC ABCMeta __loader__ abstractclassmethod abstractproperty abstractstaticmethod",
    "_abc_init _abc_instancecheck _abc_register _abc_subclasscheck _get_dump _reset_caches " ++
    "_reset_registry abstractmethod get_cache_token update_abstractmethods",
    "__builtins__ __doc__ __file__ __name__ __package__ __spec__"⟩,
  ⟨"enum",
    "DynamicClassAttribute Enum EnumCheck EnumMeta EnumType Flag FlagBoundary IntEnum " ++
    "IntFlag ReprEnum StrEnum _EnumDict _proto_member auto member nonmember property verify",
    "_dedent _high_bit _is_descriptor _is_dunder _is_internal_class _is_private " ++
    "_is_single_bit _is_sunder _iter_bits_lsb _make_class_unpicklable _old_convert_ _or_ " ++
    "_power_of_two _reduce_ex_by_global_name _simple_enum _test_simple_enum bin global_enum " ++
    "global_enum_repr global_flag_repr global_str pickle_by_enum_name pickle_by_global_name " ++
    "reduce show_flag_values unique",
    "CONFORM CONTINUOUS EJECT KEEP NAMED_FLAGS STRICT UNIQUE __all__ __builtins__ " ++
    "__cached__ __doc__ __file__ __loader__ __name__ __package__ __spec__ _auto_null " ++
    "_stdlib_enums bltns sys"⟩,
  ⟨"dataclasses",
    "Field InitVar _DataclassParams _FIELD_BASE _HAS_DEFAULT_FACTORY_CLASS _KW_ONLY_TYPE " ++
    "_MISSING_TYPE",
    "_add_slots _asdict_inner _astuple_inner _cmp_fn _create_fn _dataclass_getstate " ++
    "_dataclass_setstate _field_assign _field_init _fields_in_init_order " ++
    "_frozen_get_del_attr _get_field _get_slots _hash_add _hash_exception _hash_fn " ++
    "_hash_set_none _init_fn _init_param _is_classvar _is_dataclass_instance _is_initvar " ++
    "_is_kw_only _is_type _process_class _recursive_repr _repr_fn _set_new_attribute " ++
    "_set_qualname _tuple_str asdict astuple dataclass field fields is_dataclass " ++
    "make_dataclass replace",
    "KW_ONLY MISSING _EMPTY_METADATA _FIELD _FIELDS _FIELD_CLASSVAR _FIELD_INITVAR " ++
    "_HAS_DEFAULT_FACTORY _MODULE_IDENTIFIER_RE _PARAMS _POST_INIT_NAME __all__ " ++
    "__builtins__ __cached__ __doc__ __file__ __loader__ __name__ __package__ __spec__ " ++
    "_hash_action _thread abc builtins copy functools inspect itertools keyword re sys " ++
    "types"⟩,
  ⟨"decimal",
    "Context Decimal DecimalTuple",
    "getcontext localcontext setcontext",
    "BasicContext DefaultContext ExtendedContext HAVE_CONTEXTVAR HAVE_THREADS MAX_EMAX " ++
    "MAX_PREC MIN_EMIN MIN_ETINY ROUND_05UP ROUND_CEILING ROUND_DOWN ROUND_FLOOR " ++
    "ROUND_HALF_DOWN ROUND_HALF_EVEN ROUND_HALF_UP ROUND_UP __builtins__ __cached__ __doc__ " ++
    "__file__ __libmpdec_version__ __loader__ __name__ __package__ __spec__ __version__"⟩,
  ⟨"fractions",
    "Decimal Fraction",
    "",
    "_PyHASH_INF _PyHASH_MODULUS _RATIONAL_FORMAT __all__ __builtins__ __cached__ __doc__ " ++
    "__file__ __loader__ __name__ __package__ __spec__ math numbers operator re sys"⟩,
  ⟨"random",
    "Random SystemRandom _Sequence _Set _accumulate _repeat",
    "_acos _bisect _ceil _cos _exp _floor _index _isfinite _log _sha512 _sin _sqrt _test " ++
    "_test_generator _urandom _warn betavariate choice choices expovariate gammavariate " ++
    "gauss getrandbits getstate lognormvariate normalvariate paretovariate randbytes " ++
    "randint random randrange sample seed setstate shuffle triangular uniform " ++
    "vonmisesvariate weibullvariate",
    "BPF LOG4 NV_MAGICCONST RECIP_BPF SG_MAGICCONST TWOPI _ONE __all__ __builtins__ " ++
    "__cached__ __doc__ __file__ __loader__ __name__ __package__ __spec__ _e _inst _os _pi " ++
    "_random"⟩,
  ⟨"string",
    "Formatter Template _ChainMap",
    "capwords",
    "__all__ __builtins__ __cached__ __doc__ __file__ __loader__ __name__ __package__ " ++
    "__spec__ _re _sentinel_dict _string ascii_letters ascii_lowercase ascii_uppercase " ++
    "digits hexdigits octdigits printable punctuation whitespace"⟩,
  ⟨"pathlib",
    "Path PosixPath PurePath PurePosixPath PureWindowsPath Sequence WindowsPath _Flavour " ++
    "_PathParents _PosixFlavour _PreciseSelector _RecursiveWildcardSelector _Selector " ++
    "_TerminatingSelector _WildcardSelector _WindowsFlavour attrgetter",
    "S_ISBLK S_ISCHR S_ISDIR S_ISFIFO S_ISLNK S_ISREG S_ISSOCK _ignore_error " ++
    "_is_wildcard_pattern _make_selector urlquote_from_bytes",
    "EBADF ELOOP ENOENT ENOTDIR _IGNORED_ERRNOS _IGNORED_WINERRORS " ++
    "_WINERROR_CANT_RESOLVE_FILENAME _WINERROR_INVALID_NAME _WINERROR_NOT_READY __all__ " ++
    "__builtins__ __cached__ __doc__ __file__ __loader__ __name__ __package__ __spec__ " ++
    "_posix_flavour _windows_flavour fnmatch functools io ntpath os posixpath re sys " ++
    "warnings"⟩,
  ⟨"logging",
    "BufferingFormatter FileHandler Filter Filterer Formatter Handler LogRecord Logger " ++
    "LoggerAdapter Manager NullHandler PercentStyle PlaceHolder RootLogger StrFormatStyle " ++
    "StreamHandler StringTemplateStyle Template _StderrHandler _logRecordFactory " ++
    "_loggerClass",
    "_acquireLock _addHandlerRef _after_at_fork_child_reinit_locks _checkLevel " ++
    "_is_internal_frame _register_at_fork_reinit_lock _releaseLock _removeHandlerRef " ++
    "_showwarning addLevelName basicConfig captureWarnings critical currentframe debug " ++
    "disable error exception fatal getLevelName getLevelNamesMapping getLogRecordFactory " ++
    "getLogger getLoggerClass info log makeLogRecord setLogRecordFactory setLoggerClass " ++
    "shutdown warn warning",
    "BASIC_FORMAT CRITICAL DEBUG ERROR FATAL INFO NOTSET WARN WARNING _STYLES __all__ " ++
    "__author__ __builtins__ __cached__ __date__ __doc__ __file__ __loader__ __name__ " ++
    "__package__ __path__ __spec__ __status__ __version__ _at_fork_reinit_lock_weakset " ++
    "_defaultFormatter _defaultLastResort _handlerList _handlers _levelToName _lock " ++
    "_nameToLevel _srcfile _startTime _str_formatter _warnings_showwarning atexit " ++
    "collections io lastResort logMultiprocessing logProcesses logThreads os " ++
    "raiseExceptions re root sys threading time traceback warnings weakref"⟩,
  ⟨"copy",
    "",
    "_copy_immutable _deepcopy_atomic _deepcopy_dict _deepcopy_list _deepcopy_method " ++
    "_deepcopy_tuple _keep_alive _reconstruct copy deepcopy",
    "__all__ __builtins__ __cached__ __doc__ __file__ __loader__ __name__ __package__ " ++
    "__spec__ _copy_dispatch _deepcopy_dispatch dispatch_table"⟩,
  ⟨"io",
    "BufferedIOBase BufferedRWPair BufferedRandom BufferedReader BufferedWriter BytesIO " ++
    "FileIO IOBase IncrementalNewlineDecoder RawIOBase StringIO TextIOBase TextIOWrapper " ++
    "__loader__",
    "__getattr__ open open_code text_encoding",
    "DEFAULT_BUFFER_SIZE SEEK_CUR SEEK_END SEEK_SET __all__ __author__ __builtins__ __doc__ " ++
    "__file__ __name__ __package__ __spec__ _io abc"⟩,
  ⟨"contextlib",
    "AbstractAsyncContextManager AbstractContextManager AsyncContextDecorator " ++
    "AsyncExitStack ContextDecorator ExitStack _AsyncGeneratorContextManager _BaseExitStack " ++
    "_GeneratorContextManager _GeneratorContextManagerBase _RedirectStream aclosing chdir " ++
    "closing deque nullcontext redirect_stderr redirect_stdout suppress",
    "asynccontextmanager contextmanager wraps",
    "__all__ __builtins__ __cached__ __doc__ __file__ __loader__ __name__ __package__ " ++
    "__spec__ _collections_abc abc os sys"⟩,
  ⟨"inspect",
    "ArgInfo Arguments Attribute BlockFinder BoundArguments ClosureVars FrameInfo " ++
    "FullArgSpec OrderedDict Parameter Signature Traceback _ClassFinder _FrameInfo " ++
    "_ParameterKind _Traceback _empty _void attrgetter",
    "_check_class _check_instance _descriptor_get _findclass _finddoc _get_code_position " ++
    "_get_code_position_from_tb _getmembers _has_code_flag _is_type _main " ++
    "_missing_arguments _shadowed_dict _signature_bound_method _signature_from_builtin " ++
    "_signature_from_callable _signature_from_function _signature_fromstr " ++
    "_signature_get_partial _signature_get_user_defined_method _signature_is_builtin " ++
    "_signature_is_functionlike _signature_strip_non_python_syntax _static_getmro _too_many " ++
    "classify_class_attrs cleandoc currentframe findsource formatannotation " ++
    "formatannotationrelativeto formatargvalues get_annotations getabsfile getargs " ++
    "getargvalues getattr_static getblock getcallargs getclasstree getclosurevars " ++
    "getcomments getcoroutinelocals getcoroutinestate getdoc getfile getframeinfo " ++
    "getfullargspec getgeneratorlocals getgeneratorstate getinnerframes getlineno " ++
    "getmembers getmembers_static getmodule getmodulename getmro getouterframes getsource " ++
    "getsourcefile getsourcelines indentsize isabstract isasyncgen isasyncgenfunction " ++
    "isawaitable isbuiltin isclass iscode iscoroutine iscoroutinefunction isdatadescriptor " ++
    "isframe isfunction isgenerator isgeneratorfunction isgetsetdescriptor iskeyword " ++
    "ismemberdescriptor ismethod ismethoddescriptor ismethodwrapper ismodule isroutine " ++
    "istraceback namedtuple signature stack trace unwrap walktree",
    "CORO_CLOSED CORO_CREATED CORO_RUNNING CORO_SUSPENDED CO_ASYNC_GENERATOR CO_COROUTINE " ++
    "CO_GENERATOR CO_ITERABLE_COROUTINE CO_NESTED CO_NEWLOCALS CO_NOFREE CO_OPTIMIZED " ++
    "CO_VARARGS CO_VARKEYWORDS GEN_CLOSED GEN_CREATED GEN_RUNNING GEN_SUSPENDED " ++
    "TPFLAGS_IS_ABSTRACT _KEYWORD_ONLY _NonUserDefinedCallables _POSITIONAL_ONLY " ++
    "_POSITIONAL_OR_KEYWORD _VAR_KEYWORD _VAR_POSITIONAL __all__ __author__ __builtins__ " ++
    "__cached__ __doc__ __file__ __loader__ __name__ __package__ __spec__ _filesbymodname " ++
    "_sentinel abc ast builtins collections dis enum functools importlib itertools " ++
    "linecache modulesbyfile os re sys token tokenize types"⟩,
  ⟨"types",
    "CellType ClassMethodDescriptorType CodeType DynamicClassAttribute FrameType " ++
    "SimpleNamespace TracebackType _GeneratorWrapper",
    "_calculate_meta _cell_factory coroutine new_class prepare_class resolve_bases",
    "__all__ __builtins__ __cached__ __doc__ __file__ __loader__ __name__ __package__ " ++
    "__spec__"⟩,
  ⟨"operator",
    "attrgetter itemgetter methodcaller",
    "__abs__ __add__ __and__ __call__ __concat__ __contains__ __delitem__ __eq__ " ++
    "__floordiv__ __ge__ __getitem__ __gt__ __iadd__ __iand__ __iconcat__ __ifloordiv__ " ++
    "__ilshift__ __imatmul__ __imod__ __imul__ __index__ __inv__ __invert__ __ior__ " ++
    "__ipow__ __irshift__ __isub__ __itruediv__ __ixor__ __le__ __lshift__ __lt__ " ++
    "__matmul__ __mod__ __mul__ __ne__ __neg__ __not__ __or__ __pos__ __pow__ __rshift__ " ++
    "__setitem__ __sub__ __truediv__ __xor__ _abs abs add and_ call concat contains countOf " ++
    "delitem eq floordiv ge getitem gt iadd iand iconcat ifloordiv ilshift imatmul imod " ++
    "imul index indexOf inv invert ior ipow irshift is_ is_not isub itruediv ixor le " ++
    "length_hint lshift lt matmul mod mul ne neg not_ or_ pos pow rshift setitem sub " ++
    "truediv truth xor",
    "__all__ __builtins__ __cached__ __doc__ __file__ __loader__ __name__ __package__ " ++
    "__spec__"⟩,
  ⟨"subprocess",
    "CompletedProcess Popen _PopenSelector",
    "_WIFSTOPPED _WSTOPSIG _args_from_interpreter_flags _cleanup _fork_exec " ++
    "_optim_args_from_interpreter_flags _text_encoding _time _use_posix_spawn _waitpid " ++
    "_waitstatus_to_exitcode call check_call check_output getoutput getstatusoutput " ++
    "list2cmdline run",
    "DEVNULL PIPE STDOUT _PIPE_BUF _USE_POSIX_SPAWN _USE_VFORK _WNOHANG __all__ " ++
    "__builtins__ __cached__ __doc__ __file__ __loader__ __name__ __package__ __spec__ " ++
    "_active _can_fork_exec _mswindows builtins contextlib errno fcntl io locale os select " ++
    "selectors signal sys threading time types warnings"⟩,
  ⟨"threading",
    "Barrier BoundedSemaphore Condition Event ExceptHookArgs Semaphore Thread Timer WeakSet " ++
    "_CRLock _DummyThread _MainThread _PyRLock _RLock _count _deque _islice local",
    "Lock RLock __excepthook__ _after_fork _allocate_lock _counter _enumerate " ++
    "_maintain_shutdown_locks _make_invoke_excepthook _newname _register_atexit " ++
    "_set_sentinel _shutdown _start_new_thread _time activeCount active_count currentThread " ++
    "current_thread enumerate excepthook get_ident get_native_id getprofile gettrace " ++
    "main_thread setprofile settrace stack_size",
    "TIMEOUT_MAX _HAVE_THREAD_NATIVE_ID _SHUTTING_DOWN __all__ __builtins__ __cached__ " ++
    "__doc__ __file__ __loader__ __name__ __package__ __spec__ _active _active_limbo_lock " ++
    "_dangling _limbo _main_thread _os _profile_hook _shutdown_locks _shutdown_locks_lock " ++
    "_sys _threading_atexits _trace_hook functools"⟩,
  ⟨"warnings",
    "WarningMessage catch_warnings",
    "_add_filter _deprecated _filters_mutated _formatwarning_orig _formatwarnmsg " ++
    "_formatwarnmsg_impl _getaction _getcategory _is_internal_frame _next_external_frame " ++
    "_processoptions _setoption _showwarning_orig _showwarnmsg _showwarnmsg_impl " ++
    "_warn_unawaited_coroutine filterwarnings formatwarning resetwarnings showwarning " ++
    "simplefilter warn warn_explicit",
    "_DEPRECATED_MSG __all__ __builtins__ __cached__ __doc__ __file__ __loader__ __name__ " ++
    "__package__ __spec__ _defaultaction _onceregistry defaultaction filters onceregistry " ++
    "sys"⟩,
  ⟨"uuid",
    "Enum SafeUUID UUID",
    "_arp_getnode _find_mac_near_keyword _find_mac_under_heading _generate_time_safe " ++
    "_get_command_stdout _ifconfig_getnode _ip_getnode _ipconfig_getnode _is_universal " ++
    "_lanscan_getnode _load_system_functions _netbios_getnode _netstat_getnode _parse_mac " ++
    "_random_getnode _simple_enum _unix_getnode _windll_getnode getnode uuid1 uuid3 uuid4 " ++
    "uuid5",
    "NAMESPACE_DNS NAMESPACE_OID NAMESPACE_URL NAMESPACE_X500 RESERVED_FUTURE " ++
    "RESERVED_MICROSOFT RESERVED_NCS RFC_4122 _AIX _GETTERS _LINUX _MAC_DELIM " ++
    "_MAC_OMITS_LEADING_ZEROES _OS_GETTERS _UuidCreate __author__ __builtins__ __cached__ " ++
    "__doc__ __file__ __loader__ __name__ __package__ __spec__ _has_uuid_generate_time_safe " ++
    "_last_timestamp _node _platform_system _uuid os platform sys"⟩,
  ⟨"hashlib",
    "blake2b blake2s",
    "__get_builtin_constructor file_digest md5 new pbkdf2_hmac scrypt sha1 sha224 sha256 " ++
    "sha384 sha3_224 sha3_256 sha3_384 sha3_512 sha512 shake_128 shake_256",
    "__all__ __block_openssl_constructor __builtin_constructor_cache __builtins__ " ++
    "__cached__ __doc__ __file__ __loader__ __name__ __package__ __spec__ _hashlib " ++
    "algorithms_available algorithms_guaranteed"⟩,
  ⟨"base64",
    "",
    "_85encode _b32decode _b32encode _bytes_from_decode_data _input_type_check a85decode " ++
    "a85encode b16decode b16encode b32decode b32encode b32hexdecode b32hexencode b64decode " ++
    "b64encode b85decode b85encode decode decodebytes encode encodebytes main " ++
    "standard_b64decode standard_b64encode test urlsafe_b64decode urlsafe_b64encode",
    "MAXBINSIZE MAXLINESIZE _A85END _A85START _B32_DECODE_DOCSTRING " ++
    "_B32_DECODE_MAP01_DOCSTRING _B32_ENCODE_DOCSTRING __all__ __builtins__ __cached__ " ++
    "__doc__ __file__ __loader__ __name__ __package__ __spec__ _a85chars _a85chars2 " ++
    "_b32alphabet _b32hexalphabet _b32rev _b32tab2 _b85alphabet _b85chars _b85chars2 " ++
    "_b85dec _urlsafe_decode_translation _urlsafe_encode_translation binascii bytes_types " ++
    "re struct"⟩,
  ⟨"textwrap",
    "TextWrapper",
    "dedent fill indent shorten wrap",
    "__all__ __builtins__ __cached__ __doc__ __file__ __loader__ __name__ __package__ " ++
    "__spec__ _leading_whitespace_re _whitespace _whitespace_only_re re"⟩,
  ⟨"traceback",
    "FrameSummary StackSummary TracebackException _Anchors _ExceptionPrintContext _Sentinel " ++
    "suppress",
    "_byte_offset_to_character_offset _display_width " ++
    "_extract_caret_anchors_from_line_segment _format_final_exc_line _get_code_position " ++
    "_parse_value_tb _safe_string _walk_tb_with_full_positions clear_frames extract_stack " ++
    "extract_tb format_exc format_exception format_exception_only format_list format_stack " ++
    "format_tb print_exc print_exception print_last print_list print_stack print_tb " ++
    "walk_stack walk_tb",
    "_RECURSIVE_CUTOFF _WIDE_CHAR_SPECIFIERS __all__ __builtins__ __cached__ __doc__ " ++
    "__file__ __loader__ __name__ __package__ __spec__ _cause_message _context_message " ++
    "_sentinel collections itertools linecache sys textwrap"⟩,
  ⟨"tempfile",
    "SpooledTemporaryFile TemporaryDirectory _Random _RandomNameSequence " ++
    "_TemporaryFileCloser _TemporaryFileWrapper",
    "NamedTemporaryFile TemporaryFile _allocate_lock _candidate_tempdir_list " ++
    "_dont_follow_symlinks _exists _get_candidate_names _get_default_tempdir _gettempdir " ++
    "_infer_return_type _mkstemp_inner _resetperms _sanitize_params gettempdir gettempdirb " ++
    "gettempprefix gettempprefixb mkdtemp mkstemp mktemp",
    "TMP_MAX _O_TMPFILE_WORKS __all__ __builtins__ __cached__ __doc__ __file__ __loader__ " ++
    "__name__ __package__ __spec__ _bin_openflags _errno _functools _io _name_sequence " ++
    "_once_lock _os _shutil _stat _sys _text_openflags _thread _types _warnings _weakref " ++
    "tempdir template"⟩,
  ⟨"shutil",
    "_ntuple_diskusage",
    "_access_check _basename _check_unpack_options _copyfileobj_readinto _copytree " ++
    "_copyxattr _destinsrc _ensure_directory _fastcopy_fcopyfile _fastcopy_sendfile " ++
    "_find_unpack_format _get_gid _get_uid _is_immutable _islink _make_tarball " ++
    "_make_zipfile _rmtree_isdir _rmtree_islink _rmtree_safe_fd _rmtree_unsafe _samefile " ++
    "_stat _unpack_tarfile _unpack_zipfile chown copy copy2 copyfile copyfileobj copymode " ++
    "copystat copytree disk_usage get_archive_formats get_terminal_size get_unpack_formats " ++
    "ignore_patterns make_archive move register_archive_format register_unpack_format " ++
    "rmtree unpack_archive unregister_archive_format unregister_unpack_format which",
    "COPY_BUFSIZE _ARCHIVE_FORMATS _BZ2_SUPPORTED _HAS_FCOPYFILE _LZMA_SUPPORTED " ++
    "_UNPACK_FORMATS _USE_CP_SENDFILE _WINDOWS _WIN_DEFAULT_PATHEXT _ZLIB_SUPPORTED __all__ " ++
    "__builtins__ __cached__ __doc__ __file__ __loader__ __name__ __package__ __spec__ " ++
    "_use_fd_functions collections errno fnmatch nt os posix stat sys"⟩,
  ⟨"glob",
    "",
    "_glob0 _glob1 _glob2 _iglob _isdir _ishidden _isrecursive _iterdir _join _lexists " ++
    "_listdir _rlistdir escape glob glob0 glob1 has_magic iglob",
    "__all__ __builtins__ __cached__ __doc__ __file__ __loader__ __name__ __package__ " ++
    "__spec__ _dir_open_flags contextlib fnmatch itertools magic_check magic_check_bytes os " ++
    "re stat sys"⟩,
  ⟨"csv",
    "Dialect DictReader DictWriter Sniffer StringIO _Dialect excel excel_tab unix_dialect",
    "field_size_limit get_dialect list_dialects reader register_dialect unregister_dialect " ++
    "writer",
    "QUOTE_ALL QUOTE_MINIMAL QUOTE_NONE QUOTE_NONNUMERIC __all__ __builtins__ __cached__ " ++
    "__doc__ __file__ __loader__ __name__ __package__ __spec__ __version__ re"⟩,
  ⟨"pickle",
    "PickleBuffer Pickler Unpickler _Framer _Pickler _Unframer _Unpickler islice partial",
    "_dump _dumps _getattribute _load _loads _test decode_long dump dumps encode_long load " ++
    "loads pack unpack whichmodule",
    "ADDITEMS APPEND APPENDS BINBYTES BINBYTES8 BINFLOAT BINGET BININT BININT1 BININT2 " ++
    "BINPERSID BINPUT BINSTRING BINUNICODE BINUNICODE8 BUILD BYTEARRAY8 DEFAULT_PROTOCOL " ++
    "DICT DUP EMPTY_DICT EMPTY_LIST EMPTY_SET EMPTY_TUPLE EXT1 EXT2 EXT4 FALSE FLOAT FRAME " ++
    "FROZENSET GET GLOBAL HIGHEST_PROTOCOL INST INT LIST LONG LONG1 LONG4 LONG_BINGET " ++
    "LONG_BINPUT MARK MEMOIZE NEWFALSE NEWOBJ NEWOBJ_EX NEWTRUE NEXT_BUFFER NONE OBJ PERSID " ++
    "POP POP_MARK PROTO PUT PyStringMap READONLY_BUFFER REDUCE SETITEM SETITEMS " ++
    "SHORT_BINBYTES SHORT_BINSTRING SHORT_BINUNICODE STACK_GLOBAL STOP STRING TRUE TUPLE " ++
    "TUPLE1 TUPLE2 TUPLE3 UNICODE _HAVE_PICKLE_BUFFER __all__ __builtins__ __cached__ " ++
    "__doc__ __file__ __loader__ __name__ __package__ __spec__ _compat_pickle " ++
    "_extension_cache _extension_registry _inverted_registry _tuplesize2code bytes_types " ++
    "codecs compatible_formats dispatch_table format_version io maxsize re sys"⟩,
  ⟨"struct",
    "Struct",
    "_clearcache calcsize iter_unpack pack pack_into unpack unpack_from",
    "__all__ __builtins__ __cached__ __doc__ __file__ __loader__ __name__ __package__ " ++
    "__spec__"⟩,
  ⟨"socket",
    "AddressFamily AddressInfo IntEnum IntFlag MsgFlag SocketIO SocketKind SocketType " ++
    "socket",
    "CMSG_LEN CMSG_SPACE _fallback_socketpair _intenum_converter close create_connection " ++
    "create_server dup fromfd getaddrinfo getdefaulttimeout getfqdn gethostbyaddr " ++
    "gethostbyname gethostbyname_ex gethostname getnameinfo getprotobyname getservbyname " ++
    "getservbyport has_dualstack_ipv6 htonl htons if_indextoname if_nameindex " ++
    "if_nametoindex inet_aton inet_ntoa inet_ntop inet_pton ntohl ntohs recv_fds send_fds " ++
    "setdefaulttimeout sethostname socketpair",
    "AF_ALG AF_APPLETALK AF_ASH AF_ATMPVC AF_ATMSVC AF_AX25 AF_BRIDGE AF_CAN AF_DECnet " ++
    "AF_ECONET AF_INET AF_INET6 AF_IPX AF_IRDA AF_KEY AF_LLC AF_NETBEUI AF_NETLINK " ++
    "AF_NETROM AF_PACKET AF_PPPOX AF_RDS AF_ROSE AF_ROUTE AF_SECURITY AF_SNA AF_TIPC " ++
    "AF_UNIX AF_UNSPEC AF_WANPIPE AF_X25 AI_ADDRCONFIG AI_ALL AI_CANONNAME AI_NUMERICHOST " ++
    "AI_NUMERICSERV AI_PASSIVE AI_V4MAPPED ALG_OP_DECRYPT ALG_OP_ENCRYPT ALG_OP_SIGN " ++
    "ALG_OP_VERIFY ALG_SET_AEAD_ASSOCLEN ALG_SET_AEAD_AUTHSIZE ALG_SET_IV ALG_SET_KEY " ++
    "ALG_SET_OP ALG_SET_PUBKEY CAN_BCM CAN_BCM_RX_ANNOUNCE_RESUME CAN_BCM_RX_CHANGED " ++
    "CAN_BCM_RX_CHECK_DLC CAN_BCM_RX_DELETE CAN_BCM_RX_FILTER_ID CAN_BCM_RX_NO_AUTOTIMER " ++
    "CAN_BCM_RX_READ CAN_BCM_RX_RTR_FRAME CAN_BCM_RX_SETUP CAN_BCM_RX_STATUS " ++
    "CAN_BCM_RX_TIMEOUT CAN_BCM_SETTIMER CAN_BCM_STARTTIMER CAN_BCM_TX_ANNOUNCE " ++
    "CAN_BCM_TX_COUNTEVT CAN_BCM_TX_CP_CAN_ID CAN_BCM_TX_DELETE CAN_BCM_TX_EXPIRED " ++
    "CAN_BCM_TX_READ CAN_BCM_TX_RESET_MULTI_IDX CAN_BCM_TX_SEND CAN_BCM_TX_SETUP " ++
    "CAN_BCM_TX_STATUS CAN_EFF_FLAG CAN_EFF_MASK CAN_ERR_FLAG CAN_ERR_MASK CAN_ISOTP " ++
    "CAN_RAW CAN_RAW_FD_FRAMES CAN_RAW_FILTER CAN_RAW_LOOPBACK CAN_RAW_RECV_OWN_MSGS " ++
    "CAN_RTR_FLAG CAN_SFF_MASK CAPI EAGAIN EAI_ADDRFAMILY EAI_AGAIN EAI_BADFLAGS EAI_FAIL " ++
    "EAI_FAMILY EAI_MEMORY EAI_NODATA EAI_NONAME EAI_OVERFLOW EAI_SERVICE EAI_SOCKTYPE " ++
    "EAI_SYSTEM EBADF EWOULDBLOCK INADDR_ALLHOSTS_GROUP INADDR_ANY INADDR_BROADCAST " ++
    "INADDR_LOOPBACK INADDR_MAX_LOCAL_GROUP INADDR_NONE INADDR_UNSPEC_GROUP IPPORT_RESERVED " ++
    "IPPORT_USERRESERVED IPPROTO_AH IPPROTO_DSTOPTS IPPROTO_EGP IPPROTO_ESP " ++
    "IPPROTO_FRAGMENT IPPROTO_GRE IPPROTO_HOPOPTS IPPROTO_ICMP IPPROTO_ICMPV6 IPPROTO_IDP " ++
    "IPPROTO_IGMP IPPROTO_IP IPPROTO_IPIP IPPROTO_IPV6 IPPROTO_NONE IPPROTO_PIM IPPROTO_PUP " ++
    "IPPROTO_RAW IPPROTO_ROUTING IPPROTO_RSVP IPPROTO_SCTP IPPROTO_TCP IPPROTO_TP " ++
    "IPPROTO_UDP IPPROTO_UDPLITE IPV6_CHECKSUM IPV6_DSTOPTS IPV6_HOPLIMIT IPV6_HOPOPTS " ++
    "IPV6_JOIN_GROUP IPV6_LEAVE_GROUP IPV6_MULTICAST_HOPS IPV6_MULTICAST_IF " ++
    "IPV6_MULTICAST_LOOP IPV6_NEXTHOP IPV6_PKTINFO IPV6_RECVDSTOPTS IPV6_RECVHOPLIMIT " ++
    "IPV6_RECVHOPOPTS IPV6_RECVPKTINFO IPV6_RECVRTHDR IPV6_RECVTCLASS IPV6_RTHDR " ++
    "IPV6_RTHDRDSTOPTS IPV6_RTHDR_TYPE_0 IPV6_TCLASS IPV6_UNICAST_HOPS IPV6_V6ONLY " ++
    "IP_ADD_MEMBERSHIP IP_DEFAULT_MULTICAST_LOOP IP_DEFAULT_MULTICAST_TTL " ++
    "IP_DROP_MEMBERSHIP IP_HDRINCL IP_MAX_MEMBERSHIPS IP_MULTICAST_IF IP_MULTICAST_LOOP " ++
    "IP_MULTICAST_TTL IP_OPTIONS IP_RECVOPTS IP_RECVRETOPTS IP_RECVTOS IP_RETOPTS IP_TOS " ++
    "IP_TRANSPARENT IP_TTL MSG_CMSG_CLOEXEC MSG_CONFIRM MSG_CTRUNC MSG_DONTROUTE " ++
    "MSG_DONTWAIT MSG_EOR MSG_ERRQUEUE MSG_FASTOPEN MSG_MORE MSG_NOSIGNAL MSG_OOB MSG_PEEK " ++
    "MSG_TRUNC MSG_WAITALL NETLINK_CRYPTO NETLINK_DNRTMSG NETLINK_FIREWALL NETLINK_IP6_FW " ++
    "NETLINK_NFLOG NETLINK_ROUTE NETLINK_USERSOCK NETLINK_XFRM NI_DGRAM NI_MAXHOST " ++
    "NI_MAXSERV NI_NAMEREQD NI_NOFQDN NI_NUMERICHOST NI_NUMERICSERV PACKET_BROADCAST " ++
    "PACKET_FASTROUTE PACKET_HOST PACKET_LOOPBACK PACKET_MULTICAST PACKET_OTHERHOST " ++
    "PACKET_OUTGOING PF_CAN PF_PACKET PF_RDS SCM_CREDENTIALS SCM_RIGHTS SHUT_RD SHUT_RDWR " ++
    "SHUT_WR SOCK_CLOEXEC SOCK_DGRAM SOCK_NONBLOCK SOCK_RAW SOCK_RDM SOCK_SEQPACKET " ++
    "SOCK_STREAM SOL_ALG SOL_CAN_BASE SOL_CAN_RAW SOL_IP SOL_SOCKET SOL_TCP SOL_TIPC " ++
    "SOL_UDP SOMAXCONN SO_ACCEPTCONN SO_BINDTODEVICE SO_BROADCAST SO_DEBUG SO_DOMAIN " ++
    "SO_DONTROUTE SO_ERROR SO_KEEPALIVE SO_LINGER SO_MARK SO_OOBINLINE SO_PASSCRED " ++
    "SO_PASSSEC SO_PEERCRED SO_PEERSEC SO_PRIORITY SO_PROTOCOL SO_RCVBUF SO_RCVLOWAT " ++
    "SO_RCVTIMEO SO_REUSEADDR SO_REUSEPORT SO_SNDBUF SO_SNDLOWAT SO_SNDTIMEO SO_TYPE " ++
    "TCP_CONGESTION TCP_CORK TCP_DEFER_ACCEPT TCP_FASTOPEN TCP_INFO TCP_KEEPCNT " ++
    "TCP_KEEPIDLE TCP_KEEPINTVL TCP_LINGER2 TCP_MAXSEG TCP_NODELAY TCP_QUICKACK TCP_SYNCNT " ++
    "TCP_USER_TIMEOUT TCP_WINDOW_CLAMP TIPC_ADDR_ID TIPC_ADDR_NAME TIPC_ADDR_NAMESEQ " ++
    "TIPC_CFG_SRV TIPC_CLUSTER_SCOPE TIPC_CONN_TIMEOUT TIPC_CRITICAL_IMPORTANCE " ++
    "TIPC_DEST_DROPPABLE TIPC_HIGH_IMPORTANCE TIPC_IMPORTANCE TIPC_LOW_IMPORTANCE " ++
    "TIPC_MEDIUM_IMPORTANCE TIPC_NODE_SCOPE TIPC_PUBLISHED TIPC_SRC_DROPPABLE " ++
    "TIPC_SUBSCR_TIMEOUT TIPC_SUB_CANCEL TIPC_SUB_PORTS TIPC_SUB_SERVICE TIPC_TOP_SRV " ++
    "TIPC_WAIT_FOREVER TIPC_WITHDRAWN TIPC_ZONE_SCOPE UDPLITE_RECV_CSCOV UDPLITE_SEND_CSCOV " ++
    "_GLOBAL_DEFAULT_TIMEOUT _LOCALHOST _LOCALHOST_V6 __all__ __builtins__ __cached__ " ++
    "__doc__ __file__ __loader__ __name__ __package__ __spec__ _blocking_errnos _socket " ++
    "array errno has_ipv6 io os selectors sys"⟩,
  ⟨"urllib",
    "",
    "",
    "__builtins__ __cached__ __doc__ __file__ __loader__ __name__ __package__ __path__ " ++
    "__spec__"⟩,
  ⟨"urllib.parse",
    "DefragResult DefragResultBytes ParseResult ParseResultBytes ResultBase SplitResult " ++
    "SplitResultBytes _DefragResultBase _NetlocResultMixinBase _NetlocResultMixinBytes " ++
    "_NetlocResultMixinStr _ParseResultBase _Quoter _ResultMixinBytes _ResultMixinStr " ++
    "_SplitResultBase",
    "__getattr__ _byte_quoter_factory _check_bracketed_host _checknetloc _coerce_args " ++
    "_decode_args _encode_result _noop _splitattr _splithost _splitnetloc _splitnport " ++
    "_splitparams _splitpasswd _splitport _splitquery _splittag _splittype _splituser " ++
    "_splitvalue _to_bytes clear_cache namedtuple parse_qs parse_qsl quote quote_from_bytes " ++
    "quote_plus splitattr splithost splitnport splitpasswd splitport splitquery splittag " ++
    "splittype splituser splitvalue to_bytes unquote unquote_plus unquote_to_bytes unwrap " ++
    "urldefrag urlencode urljoin urlparse urlsplit urlunparse urlunsplit",
    "_ALWAYS_SAFE _ALWAYS_SAFE_BYTES _UNSAFE_URL_BYTES_TO_REMOVE " ++
    "_WHATWG_C0_CONTROL_OR_SPACE __all__ __builtins__ __cached__ __doc__ __file__ " ++
    "__loader__ __name__ __package__ __spec__ _asciire _hexdig _hextobyte _hostprog " ++
    "_implicit_encoding _implicit_errors _portprog _typeprog functools ipaddress " ++
    "non_hierarchical re scheme_chars sys types uses_fragment uses_netloc uses_params " ++
    "uses_query uses_relative warnings"⟩,
  ⟨"urllib.request",
    "AbstractBasicAuthHandler AbstractDigestAuthHandler AbstractHTTPHandler BaseHandler " ++
    "CacheFTPHandler DataHandler FTPHandler FancyURLopener FileHandler HTTPBasicAuthHandler " ++
    "HTTPCookieProcessor HTTPDefaultErrorHandler HTTPDigestAuthHandler HTTPErrorProcessor " ++
    "HTTPHandler HTTPPasswordMgr HTTPPasswordMgrWithDefaultRealm " ++
    "HTTPPasswordMgrWithPriorAuth HTTPRedirectHandler HTTPSHandler OpenerDirector " ++
    "ProxyBasicAuthHandler ProxyDigestAuthHandler ProxyHandler Request URLopener " ++
    "UnknownHandler addclosehook addinfourl ftpwrapper",
    "_parse_proxy _proxy_bypass_macosx_sysconf _proxy_bypass_winreg_override _randombytes " ++
    "_safe_gethostbyname _splitattr _splithost _splitpasswd _splitport _splitquery " ++
    "_splittag _splittype _splituser _splitvalue _to_bytes build_opener ftperrors " ++
    "getproxies getproxies_environment install_opener localhost noheaders parse_http_list " ++
    "parse_keqv_list pathname2url proxy_bypass proxy_bypass_environment quote request_host " ++
    "thishost unquote unquote_to_bytes unwrap url2pathname urlcleanup urljoin urlopen " ++
    "urlparse urlretrieve urlsplit urlunparse",
    "MAXFTPCACHE __all__ __builtins__ __cached__ __doc__ __file__ __loader__ __name__ " ++
    "__package__ __spec__ __version__ _cut_port_re _ftperrors _have_ssl _localhost " ++
    "_noheaders _opener _thishost _url_tempfiles base64 bisect contextlib email ftpcache " ++
    "hashlib http io os posixpath re socket ssl string sys tempfile time warnings"⟩,
  ⟨"urllib.error",
    "",
    "",
    "__all__ __builtins__ __cached__ __doc__ __file__ __loader__ __name__ __package__ " ++
    "__spec__ io urllib"⟩,
  ⟨"argparse",
    "Action ArgumentDefaultsHelpFormatter ArgumentParser BooleanOptionalAction FileType " ++
    "HelpFormatter MetavarTypeHelpFormatter Namespace RawDescriptionHelpFormatter " ++
    "RawTextHelpFormatter _ActionsContainer _AppendAction _AppendConstAction _ArgumentGroup " ++
    "_AttributeHolder _CountAction _ExtendAction _HelpAction _MutuallyExclusiveGroup " ++
    "_StoreAction _StoreConstAction _StoreFalseAction _StoreTrueAction _SubParsersAction " ++
    "_VersionAction",
    "_ _copy_items _get_action_name ngettext",
    "ONE_OR_MORE OPTIONAL PARSER REMAINDER SUPPRESS ZERO_OR_MORE _UNRECOGNIZED_ARGS_ATTR " ++
    "__all__ __builtins__ __cached__ __doc__ __file__ __loader__ __name__ __package__ " ++
    "__spec__ __version__ _os _re _sys warnings"⟩,
  ⟨"statistics",
    "Counter Decimal Fraction LinearRegression NormalDist defaultdict groupby repeat",
    "_coerce _convert _decimal_sqrt_of_frac _exact_ratio _fail_neg _float_sqrt_of_frac " ++
    "_integer_sqrt_of_frac_rto _isfinite _mean_stdev _normal_dist_inv_cdf _ss _sum " ++
    "bisect_left bisect_right correlation covariance erf exp fabs fmean fsum geometric_mean " ++
    "harmonic_mean hypot linear_regression log mean median median_grouped median_high " ++
    "median_low mode mul multimode namedtuple pstdev pvariance quantiles reduce sqrt stdev " ++
    "variance",
    "_SQRT2 __all__ __annotations__ __builtins__ __cached__ __doc__ __file__ __loader__ " ++
    "__name__ __package__ __spec__ _sqrt_bit_width math numbers random sys tau"⟩,
  ⟨"weakref",
    "CallableProxyType KeyedRef ProxyType ReferenceType WeakKeyDictionary WeakMethod " ++
    "WeakSet WeakValueDictionary _IterationGuard finalize ref",
    "_remove_dead_weakref getweakrefcount getweakrefs proxy",
    "ProxyTypes __all__ __builtins__ __cached__ __doc__ __file__ __loader__ __name__ " ++
    "__package__ __spec__ _collections_abc itertools sys"⟩,
  ⟨"secrets",
    "SystemRandom",
    "choice compare_digest randbelow randbits token_bytes token_hex token_urlsafe",
    "DEFAULT_ENTROPY __all__ __builtins__ __cached__ __doc__ __file__ __loader__ __name__ " ++
    "__package__ __spec__ _sysrand base64 binascii"⟩,
  ⟨"queue",
    "LifoQueue PriorityQueue Queue SimpleQueue _PySimpleQueue deque",
    "heappop heappush time",
    "__all__ __builtins__ __cached__ __doc__ __file__ __loader__ __name__ __package__ " ++
    "__spec__ threading types"⟩,
  ⟨"platform",
    "_Processor uname_result",
    "_comparable_version _follow_symlinks _get_machine_win32 _java_getprop _mac_ver_xml " ++
    "_node _norm_version _parse_os_release _platform _sys_version _syscmd_file _syscmd_ver " ++
    "_unknown_as_blank architecture freedesktop_os_release java_ver libc_ver mac_ver " ++
    "machine node platform processor python_branch python_build python_compiler " ++
    "python_implementation python_revision python_version python_version_tuple release " ++
    "system system_alias uname version win32_edition win32_is_iot win32_ver",
    "_WIN32_CLIENT_RELEASES _WIN32_SERVER_RELEASES __builtins__ __cached__ __copyright__ " ++
    "__doc__ __file__ __loader__ __name__ __package__ __spec__ __version__ _component_re " ++
    "_default_architecture _ironpython26_sys_version_parser _ironpython_sys_version_parser " ++
    "_libc_search _os_release_cache _os_release_candidates _os_release_line " ++
    "_os_release_unescape _platform_cache _pypy_sys_version_parser _sys_version_cache " ++
    "_sys_version_parser _uname_cache _ver_output _ver_stages collections functools " ++
    "itertools os re sys"⟩,
  ⟨"calendar",
    "Calendar HTMLCalendar LocaleHTMLCalendar LocaleTextCalendar TextCalendar " ++
    "_localized_day _localized_month different_locale repeat",
    "_get_default_locale _monthlen _nextmonth _prevmonth calendar firstweekday format " ++
    "formatstring isleap leapdays main month monthcalendar monthrange prcal prmonth prweek " ++
    "setfirstweekday timegm week weekday weekheader",
    "EPOCH FRIDAY February January MONDAY SATURDAY SUNDAY THURSDAY TUESDAY WEDNESDAY " ++
    "_EPOCH_ORD __all__ __builtins__ __cached__ __doc__ __file__ __loader__ __name__ " ++
    "__package__ __spec__ _colwidth _locale _spacing c datetime day_abbr day_name mdays " ++
    "month_abbr month_name sys"⟩,
  ⟨"importlib",
    "",
    "__import__ _pack_uint32 _unpack_uint32 find_loader import_module invalidate_caches " ++
    "reload",
    "_RELOADING __all__ __builtins__ __cached__ __doc__ __file__ __loader__ __name__ " ++
    "__package__ __path__ __spec__ _imp sys warnings"⟩,
  ⟨"importlib.util",
    "LazyLoader Loader _LazyModule __loader__",
    "_find_spec _find_spec_from_path _module_to_load _resolve_name cache_from_source " ++
    "contextmanager decode_source find_spec module_for_loader module_from_spec resolve_name " ++
    "set_loader set_package source_from_cache source_hash spec_from_file_location " ++
    "spec_from_loader",
    "MAGIC_NUMBER _RAW_MAGIC_NUMBER __builtins__ __doc__ __file__ __name__ __package__ " ++
    "__spec__ _imp functools sys threading types warnings"⟩,
  ⟨"ast",
    "AST Add And AnnAssign Assert Assign AsyncFor AsyncFunctionDef AsyncWith Attribute " ++
    "AugAssign AugLoad AugStore Await BinOp BitAnd BitOr BitXor BoolOp Break Bytes Call " ++
    "ClassDef Compare Constant Continue Del Delete Dict DictComp Div Ellipsis Eq " ++
    "ExceptHandler Expr Expression ExtSlice FloorDiv For FormattedValue FunctionDef " ++
    "FunctionType GeneratorExp Global Gt GtE If IfExp Import ImportFrom In Index IntEnum " ++
    "Interactive Invert Is IsNot JoinedStr LShift Lambda List ListComp Load Lt LtE MatMult " ++
    "Match MatchAs MatchClass MatchMapping MatchOr MatchSequence MatchSingleton MatchStar " ++
    "MatchValue Mod Module Mult Name NameConstant NamedExpr NodeTransformer NodeVisitor " ++
    "Nonlocal Not NotEq NotIn Num Or Param Pass Pow RShift Raise Return Set SetComp Slice " ++
    "Starred Store Str Sub Subscript Suite Try TryStar Tuple TypeIgnore UAdd USub UnaryOp " ++
    "While With Yield YieldFrom _ABC _Precedence _Unparser alias arg arguments auto boolop " ++
    "cmpop comprehension excepthandler expr expr_context keyword match_case mod nullcontext " ++
    "operator pattern slice stmt type_ignore unaryop withitem",
    "_dims_getter _dims_setter _getter _new _pad_whitespace _setter _simple_enum " ++
    "_splitlines_no_ff contextmanager copy_location dump fix_missing_locations " ++
    "get_docstring get_source_segment increment_lineno iter_child_nodes iter_fields " ++
    "literal_eval main parse unparse walk",
    "PyCF_ALLOW_TOP_LEVEL_AWAIT PyCF_ONLY_AST PyCF_TYPE_COMMENTS _ALL_QUOTES _INFSTR " ++
    "_MULTI_QUOTES _SINGLE_QUOTES __builtins__ __cached__ __doc__ __file__ __loader__ " ++
    "__name__ __package__ __spec__ _const_node_type_names _const_types _const_types_not sys"⟩,
  ⟨"asyncio",
    "AbstractChildWatcher AbstractEventLoop AbstractEventLoopPolicy AbstractServer Barrier " ++
    "BaseEventLoop BaseProtocol BaseTransport BoundedSemaphore BufferedProtocol Condition " ++
    "DatagramProtocol DatagramTransport DefaultEventLoopPolicy Event FastChildWatcher " ++
    "Future Handle LifoQueue Lock MultiLoopChildWatcher PidfdChildWatcher PriorityQueue " ++
    "Protocol Queue ReadTransport Runner SafeChildWatcher SelectorEventLoop Semaphore " ++
    "Server StreamReader StreamReaderProtocol StreamWriter SubprocessProtocol " ++
    "SubprocessTransport Task TaskGroup ThreadedChildWatcher Timeout TimerHandle Transport " ++
    "WriteTransport",
    "_enter_task _get_running_loop _leave_task _register_task _set_running_loop " ++
    "_unregister_task all_tasks as_completed create_subprocess_exec create_subprocess_shell " ++
    "create_task current_task ensure_future gather get_child_watcher get_event_loop " ++
    "get_event_loop_policy get_running_loop iscoroutine iscoroutinefunction isfuture " ++
    "new_event_loop open_connection open_unix_connection run run_coroutine_threadsafe " ++
    "set_child_watcher set_event_loop set_event_loop_policy shield sleep start_server " ++
    "start_unix_server timeout timeout_at to_thread wait wait_for wrap_future",
    "ALL_COMPLETED FIRST_COMPLETED FIRST_EXCEPTION __all__ __builtins__ __cached__ __doc__ " ++
    "__file__ __loader__ __name__ __package__ __path__ __spec__ sys"⟩,
  ⟨"http",
    "HTTPMethod HTTPStatus IntEnum StrEnum",
    "_simple_enum",
    "__all__ __builtins__ __cached__ __doc__ __file__ __loader__ __name__ __package__ " ++
    "__path__ __spec__"⟩,
  ⟨"http.client",
    "HTTPConnection HTTPMessage HTTPResponse HTTPSConnection",
    "_encode _is_illegal_header_value _is_legal_header_name _read_headers _strip_ipv6_iface " ++
    "parse_headers urlsplit",
    "ACCEPTED ALREADY_REPORTED BAD_GATEWAY BAD_REQUEST CONFLICT CONTINUE CREATED " ++
    "EARLY_HINTS EXPECTATION_FAILED FAILED_DEPENDENCY FORBIDDEN FOUND GATEWAY_TIMEOUT GONE " ++
    "HTTPS_PORT HTTP_PORT HTTP_VERSION_NOT_SUPPORTED IM_A_TEAPOT IM_USED " ++
    "INSUFFICIENT_STORAGE INTERNAL_SERVER_ERROR LENGTH_REQUIRED LOCKED LOOP_DETECTED " ++
    "METHOD_NOT_ALLOWED MISDIRECTED_REQUEST MOVED_PERMANENTLY MULTIPLE_CHOICES MULTI_STATUS " ++
    "NETWORK_AUTHENTICATION_REQUIRED NON_AUTHORITATIVE_INFORMATION NOT_ACCEPTABLE " ++
    "NOT_EXTENDED NOT_FOUND NOT_IMPLEMENTED NOT_MODIFIED NO_CONTENT OK PARTIAL_CONTENT " ++
    "PAYMENT_REQUIRED PERMANENT_REDIRECT PRECONDITION_FAILED PRECONDITION_REQUIRED " ++
    "PROCESSING PROXY_AUTHENTICATION_REQUIRED REQUESTED_RANGE_NOT_SATISFIABLE " ++
    "REQUEST_ENTITY_TOO_LARGE REQUEST_HEADER_FIELDS_TOO_LARGE REQUEST_TIMEOUT " ++
    "REQUEST_URI_TOO_LONG RESET_CONTENT SEE_OTHER SERVICE_UNAVAILABLE SWITCHING_PROTOCOLS " ++
    "TEMPORARY_REDIRECT TOO_EARLY TOO_MANY_REQUESTS UNAUTHORIZED " ++
    "UNAVAILABLE_FOR_LEGAL_REASONS UNPROCESSABLE_ENTITY UNSUPPORTED_MEDIA_TYPE " ++
    "UPGRADE_REQUIRED USE_PROXY VARIANT_ALSO_NEGOTIATES _CS_IDLE _CS_REQ_SENT " ++
    "_CS_REQ_STARTED _MAXHEADERS _MAXLINE _METHODS_EXPECTING_BODY _UNKNOWN __all__ " ++
    "__builtins__ __cached__ __doc__ __file__ __loader__ __name__ __package__ __spec__ " ++
    "_contains_disallowed_method_pchar_re _contains_disallowed_url_pchar_re collections " ++
    "email errno http io re responses socket ssl sys"⟩,
  ⟨"html",
    "",
    "_replace_charref escape unescape",
    "__all__ __builtins__ __cached__ __doc__ __file__ __loader__ __name__ __package__ " ++
    "__path__ __spec__ _charref _html5 _invalid_charrefs _invalid_codepoints _re"⟩,
  ⟨"heapq",
    "",
    "_heapify_max _heappop_max _heapreplace_max _siftdown _siftdown_max _siftup _siftup_max " ++
    "heapify heappop heappush heappushpop heapreplace merge nlargest nsmallest",
    "__about__ __all__ __builtins__ __cached__ __doc__ __file__ __loader__ __name__ " ++
    "__package__ __spec__"⟩,
  ⟨"bisect",
    "",
    "bisect bisect_left bisect_right insort insort_left insort_right",
    "__builtins__ __cached__ __doc__ __file__ __loader__ __name__ __package__ __spec__"⟩,
  ⟨"array",
    "ArrayType __loader__ array",
    "_array_reconstructor",
    "__doc__ __name__ __package__ __spec__ typecodes"⟩,
  ⟨"numbers",
    "ABCMeta Complex Integral Number Rational Real",
    "abstractmethod",
    "__all__ __builtins__ __cached__ __doc__ __file__ __loader__ __name__ __package__ " ++
    "__spec__"⟩,
  ⟨"codecs",
    "BufferedIncrementalDecoder BufferedIncrementalEncoder Codec CodecInfo " ++
    "IncrementalDecoder IncrementalEncoder StreamReader StreamReaderWriter StreamRecoder " ++
    "StreamWriter __loader__",
    "EncodedFile ascii_decode ascii_encode backslashreplace_errors charmap_build " ++
    "charmap_decode charmap_encode decode encode escape_decode escape_encode getdecoder " ++
    "getencoder getincrementaldecoder getincrementalencoder getreader getwriter " ++
    "ignore_errors iterdecode iterencode latin_1_decode latin_1_encode lookup lookup_error " ++
    "make_encoding_map make_identity_dict namereplace_errors open raw_unicode_escape_decode " ++
    "raw_unicode_escape_encode readbuffer_encode register register_error replace_errors " ++
    "strict_errors unicode_escape_decode unicode_escape_encode unregister utf_16_be_decode " ++
    "utf_16_be_encode utf_16_decode utf_16_encode utf_16_ex_decode utf_16_le_decode " ++
    "utf_16_le_encode utf_32_be_decode utf_32_be_encode utf_32_decode utf_32_encode " ++
    "utf_32_ex_decode utf_32_le_decode utf_32_le_encode utf_7_decode utf_7_encode " ++
    "utf_8_decode utf_8_encode xmlcharrefreplace_errors",
    "BOM BOM32_BE BOM32_LE BOM64_BE BOM64_LE BOM_BE BOM_LE BOM_UTF16 BOM_UTF16_BE " ++
    "BOM_UTF16_LE BOM_UTF32 BOM_UTF32_BE BOM_UTF32_LE BOM_UTF8 __all__ __builtins__ __doc__ " ++
    "__file__ __name__ __package__ __spec__ _false builtins sys"⟩,
  ⟨"locale",
    "",
    "_append_modifier _build_localename _format _group _grouping_intervals _localeconv " ++
    "_localize _parse_localename _print_locale _replace_encoding _setlocale _strcoll " ++
    "_strip_padding _strxfrm _test atof atoi bind_textdomain_codeset bindtextdomain " ++
    "currency dcgettext delocalize dgettext format format_string getdefaultlocale " ++
    "getencoding getlocale getpreferredencoding gettext localeconv localize nl_langinfo " ++
    "normalize resetlocale setlocale str strcoll strxfrm textdomain",
    "ABDAY_1 ABDAY_2 ABDAY_3 ABDAY_4 ABDAY_5 ABDAY_6 ABDAY_7 ABMON_1 ABMON_10 ABMON_11 " ++
    "ABMON_12 ABMON_2 ABMON_3 ABMON_4 ABMON_5 ABMON_6 ABMON_7 ABMON_8 ABMON_9 ALT_DIGITS " ++
    "AM_STR CHAR_MAX CODESET CRNCYSTR DAY_1 DAY_2 DAY_3 DAY_4 DAY_5 DAY_6 DAY_7 D_FMT " ++
    "D_T_FMT ERA ERA_D_FMT ERA_D_T_FMT ERA_T_FMT LC_ALL LC_COLLATE LC_CTYPE LC_MESSAGES " ++
    "LC_MONETARY LC_NUMERIC LC_TIME MON_1 MON_10 MON_11 MON_12 MON_2 MON_3 MON_4 MON_5 " ++
    "MON_6 MON_7 MON_8 MON_9 NOEXPR PM_STR RADIXCHAR THOUSEP T_FMT T_FMT_AMPM YESEXPR " ++
    "__all__ __builtins__ __cached__ __doc__ __file__ __loader__ __name__ __package__ " ++
    "__spec__ _collections_abc _override_localeconv _percent_re encodings functools " ++
    "locale_alias locale_encoding_alias re sys windows_locale"⟩,
  ⟨"errno",
    "__loader__",
    "",
    "E2BIG EACCES EADDRINUSE EADDRNOTAVAIL EADV EAFNOSUPPORT EAGAIN EALREADY EBADE EBADF " ++
    "EBADFD EBADMSG EBADR EBADRQC EBADSLT EBFONT EBUSY ECANCELED ECHILD ECHRNG ECOMM " ++
    "ECONNABORTED ECONNREFUSED ECONNRESET EDEADLK EDEADLOCK EDESTADDRREQ EDOM EDOTDOT " ++
    "EDQUOT EEXIST EFAULT EFBIG EHOSTDOWN EHOSTUNREACH EIDRM EILSEQ EINPROGRESS EINTR " ++
    "EINVAL EIO EISCONN EISDIR EISNAM EKEYEXPIRED EKEYREJECTED EKEYREVOKED EL2HLT EL2NSYNC " ++
    "EL3HLT EL3RST ELIBACC ELIBBAD ELIBEXEC ELIBMAX ELIBSCN ELNRNG ELOOP EMEDIUMTYPE EMFILE " ++
    "EMLINK EMSGSIZE EMULTIHOP ENAMETOOLONG ENAVAIL ENETDOWN ENETRESET ENETUNREACH ENFILE " ++
    "ENOANO ENOBUFS ENOCSI ENODATA ENODEV ENOENT ENOEXEC ENOKEY ENOLCK ENOLINK ENOMEDIUM " ++
    "ENOMEM ENOMSG ENONET ENOPKG ENOPROTOOPT ENOSPC ENOSR ENOSTR ENOSYS ENOTBLK ENOTCONN " ++
    "ENOTDIR ENOTEMPTY ENOTNAM ENOTRECOVERABLE ENOTSOCK ENOTSUP ENOTTY ENOTUNIQ ENXIO " ++
    "EOPNOTSUPP EOVERFLOW EOWNERDEAD EPERM EPFNOSUPPORT EPIPE EPROTO EPROTONOSUPPORT " ++
    "EPROTOTYPE ERANGE EREMCHG EREMOTE EREMOTEIO ERESTART ERFKILL EROFS ESHUTDOWN " ++
    "ESOCKTNOSUPPORT ESPIPE ESRCH ESRMNT ESTALE ESTRPIPE ETIME ETIMEDOUT ETOOMANYREFS " ++
    "ETXTBSY EUCLEAN EUNATCH EUSERS EWOULDBLOCK EXDEV EXFULL __doc__ __name__ __package__ " ++
    "__spec__ errorcode"⟩,
  ⟨"signal",
    "Handlers Sigmasks Signals _IntEnum struct_siginfo",
    "_enum_to_int _int_to_enum alarm default_int_handler getitimer getsignal pause " ++
    "pthread_kill pthread_sigmask raise_signal set_wakeup_fd setitimer siginterrupt signal " ++
    "sigpending sigtimedwait sigwait sigwaitinfo strsignal valid_signals",
    "ITIMER_PROF ITIMER_REAL ITIMER_VIRTUAL NSIG SIGABRT SIGALRM SIGBUS SIGCHLD SIGCLD " ++
    "SIGCONT SIGFPE SIGHUP SIGILL SIGINT SIGIO SIGIOT SIGKILL SIGPIPE SIGPOLL SIGPROF " ++
    "SIGPWR SIGQUIT SIGRTMAX SIGRTMIN SIGSEGV SIGSTKFLT SIGSTOP SIGSYS SIGTERM SIGTRAP " ++
    "SIGTSTP SIGTTIN SIGTTOU SIGURG SIGUSR1 SIGUSR2 SIGVTALRM SIGWINCH SIGXCPU SIGXFSZ " ++
    "SIG_BLOCK SIG_DFL SIG_IGN SIG_SETMASK SIG_UNBLOCK __builtins__ __cached__ __doc__ " ++
    "__file__ __loader__ __name__ __package__ __spec__ _signal"⟩,
  ⟨"zlib",
    "__loader__",
    "adler32 compress compressobj crc32 decompress decompressobj",
    "DEFLATED DEF_BUF_SIZE DEF_MEM_LEVEL MAX_WBITS ZLIB_RUNTIME_VERSION ZLIB_VERSION " ++
    "Z_BEST_COMPRESSION Z_BEST_SPEED Z_BLOCK Z_DEFAULT_COMPRESSION Z_DEFAULT_STRATEGY " ++
    "Z_FILTERED Z_FINISH Z_FIXED Z_FULL_FLUSH Z_HUFFMAN_ONLY Z_NO_COMPRESSION Z_NO_FLUSH " ++
    "Z_PARTIAL_FLUSH Z_RLE Z_SYNC_FLUSH Z_TREES __doc__ __name__ __package__ __spec__ " ++
    "__version__"⟩,
  ⟨"gzip",
    "GzipFile _GzipReader _PaddedFile",
    "_create_simple_gzip_header _read_exact _read_gzip_header compress decompress main open " ++
    "write32u",
    "FCOMMENT FEXTRA FHCRC FNAME FTEXT READ WRITE _COMPRESS_LEVEL_BEST _COMPRESS_LEVEL_FAST " ++
    "_COMPRESS_LEVEL_TRADEOFF __all__ __builtins__ __cached__ __doc__ __file__ __loader__ " ++
    "__name__ __package__ __spec__ _compression builtins io os struct sys time zlib"⟩,
  ⟨"sqlite3",
    "Blob Connection Cursor Date PrepareProtocol Row Time Timestamp",
    "DateFromTicks TimeFromTicks TimestampFromTicks __getattr__ adapt complete_statement " ++
    "connect enable_callback_tracebacks enable_shared_cache register_adapter " ++
    "register_converter",
    "PARSE_COLNAMES PARSE_DECLTYPES SQLITE_ABORT SQLITE_ABORT_ROLLBACK SQLITE_ALTER_TABLE " ++
    "SQLITE_ANALYZE SQLITE_ATTACH SQLITE_AUTH SQLITE_AUTH_USER SQLITE_BUSY " ++
    "SQLITE_BUSY_RECOVERY SQLITE_BUSY_SNAPSHOT SQLITE_BUSY_TIMEOUT SQLITE_CANTOPEN " ++
    "SQLITE_CANTOPEN_CONVPATH SQLITE_CANTOPEN_DIRTYWAL SQLITE_CANTOPEN_FULLPATH " ++
    "SQLITE_CANTOPEN_ISDIR SQLITE_CANTOPEN_NOTEMPDIR SQLITE_CANTOPEN_SYMLINK " ++
    "SQLITE_CONSTRAINT SQLITE_CONSTRAINT_CHECK SQLITE_CONSTRAINT_COMMITHOOK " ++
    "SQLITE_CONSTRAINT_FOREIGNKEY SQLITE_CONSTRAINT_FUNCTION SQLITE_CONSTRAINT_NOTNULL " ++
    "SQLITE_CONSTRAINT_PINNED SQLITE_CONSTRAINT_PRIMARYKEY SQLITE_CONSTRAINT_ROWID " ++
    "SQLITE_CONSTRAINT_TRIGGER SQLITE_CONSTRAINT_UNIQUE SQLITE_CONSTRAINT_VTAB " ++
    "SQLITE_CORRUPT SQLITE_CORRUPT_INDEX SQLITE_CORRUPT_SEQUENCE SQLITE_CORRUPT_VTAB " ++
    "SQLITE_CREATE_INDEX SQLITE_CREATE_TABLE SQLITE_CREATE_TEMP_INDEX " ++
    "SQLITE_CREATE_TEMP_TABLE SQLITE_CREATE_TEMP_TRIGGER SQLITE_CREATE_TEMP_VIEW " ++
    "SQLITE_CREATE_TRIGGER SQLITE_CREATE_VIEW SQLITE_CREATE_VTABLE SQLITE_DELETE " ++
    "SQLITE_DENY SQLITE_DETACH SQLITE_DONE SQLITE_DROP_INDEX SQLITE_DROP_TABLE " ++
    "SQLITE_DROP_TEMP_INDEX SQLITE_DROP_TEMP_TABLE SQLITE_DROP_TEMP_TRIGGER " ++
    "SQLITE_DROP_TEMP_VIEW SQLITE_DROP_TRIGGER SQLITE_DROP_VIEW SQLITE_DROP_VTABLE " ++
    "SQLITE_EMPTY SQLITE_ERROR SQLITE_ERROR_MISSING_COLLSEQ SQLITE_ERROR_RETRY " ++
    "SQLITE_ERROR_SNAPSHOT SQLITE_FORMAT SQLITE_FULL SQLITE_FUNCTION SQLITE_IGNORE " ++
    "SQLITE_INSERT SQLITE_INTERNAL SQLITE_INTERRUPT SQLITE_IOERR SQLITE_IOERR_ACCESS " ++
    "SQLITE_IOERR_AUTH SQLITE_IOERR_BEGIN_ATOMIC SQLITE_IOERR_BLOCKED " ++
    "SQLITE_IOERR_CHECKRESERVEDLOCK SQLITE_IOERR_CLOSE SQLITE_IOERR_COMMIT_ATOMIC " ++
    "SQLITE_IOERR_CONVPATH SQLITE_IOERR_CORRUPTFS SQLITE_IOERR_DATA SQLITE_IOERR_DELETE " ++
    "SQLITE_IOERR_DELETE_NOENT SQLITE_IOERR_DIR_CLOSE SQLITE_IOERR_DIR_FSYNC " ++
    "SQLITE_IOERR_FSTAT SQLITE_IOERR_FSYNC SQLITE_IOERR_GETTEMPPATH SQLITE_IOERR_LOCK " ++
    "SQLITE_IOERR_MMAP SQLITE_IOERR_NOMEM SQLITE_IOERR_RDLOCK SQLITE_IOERR_READ " ++
    "SQLITE_IOERR_ROLLBACK_ATOMIC SQLITE_IOERR_SEEK SQLITE_IOERR_SHMLOCK " ++
    "SQLITE_IOERR_SHMMAP SQLITE_IOERR_SHMOPEN SQLITE_IOERR_SHMSIZE SQLITE_IOERR_SHORT_READ " ++
    "SQLITE_IOERR_TRUNCATE SQLITE_IOERR_UNLOCK SQLITE_IOERR_VNODE SQLITE_IOERR_WRITE " ++
    "SQLITE_LIMIT_ATTACHED SQLITE_LIMIT_COLUMN SQLITE_LIMIT_COMPOUND_SELECT " ++
    "SQLITE_LIMIT_EXPR_DEPTH SQLITE_LIMIT_FUNCTION_ARG SQLITE_LIMIT_LENGTH " ++
    "SQLITE_LIMIT_LIKE_PATTERN_LENGTH SQLITE_LIMIT_SQL_LENGTH SQLITE_LIMIT_TRIGGER_DEPTH " ++
    "SQLITE_LIMIT_VARIABLE_NUMBER SQLITE_LIMIT_VDBE_OP SQLITE_LIMIT_WORKER_THREADS " ++
    "SQLITE_LOCKED SQLITE_LOCKED_SHAREDCACHE SQLITE_LOCKED_VTAB SQLITE_MISMATCH " ++
    "SQLITE_MISUSE SQLITE_NOLFS SQLITE_NOMEM SQLITE_NOTADB SQLITE_NOTFOUND SQLITE_NOTICE " ++
    "SQLITE_NOTICE_RECOVER_ROLLBACK SQLITE_NOTICE_RECOVER_WAL SQLITE_OK " ++
    "SQLITE_OK_LOAD_PERMANENTLY SQLITE_OK_SYMLINK SQLITE_PERM SQLITE_PRAGMA SQLITE_PROTOCOL " ++
    "SQLITE_RANGE SQLITE_READ SQLITE_READONLY SQLITE_READONLY_CANTINIT " ++
    "SQLITE_READONLY_CANTLOCK SQLITE_READONLY_DBMOVED SQLITE_READONLY_DIRECTORY " ++
    "SQLITE_READONLY_RECOVERY SQLITE_READONLY_ROLLBACK SQLITE_RECURSIVE SQLITE_REINDEX " ++
    "SQLITE_ROW SQLITE_SAVEPOINT SQLITE_SCHEMA SQLITE_SELECT SQLITE_TOOBIG " ++
    "SQLITE_TRANSACTION SQLITE_UPDATE SQLITE_WARNING SQLITE_WARNING_AUTOINDEX __builtins__ " ++
    "__cached__ __doc__ __file__ __loader__ __name__ __package__ __path__ __spec__ adapters " ++
    "apilevel collections converters datetime paramstyle sqlite_version sqlite_version_info " ++
    "threadsafety time version version_info"⟩,
  ⟨"unittest",
    "BaseTestSuite FunctionTestCase IsolatedAsyncioTestCase TestCase TestLoader TestProgram " ++
    "TestResult TestSuite TextTestResult TextTestRunner _TextTestResult main",
    "__dir__ __getattr__ addModuleCleanup doModuleCleanups enterModuleContext " ++
    "expectedFailure findTestCases getTestCaseNames installHandler load_tests makeSuite " ++
    "registerResult removeHandler removeResult skip skipIf skipUnless",
    "__all__ __builtins__ __cached__ __doc__ __file__ __loader__ __name__ __package__ " ++
    "__path__ __spec__ __unittest defaultTestLoader"⟩,
  ⟨"configparser",
    "BasicInterpolation ConfigParser ConverterMapping ExtendedInterpolation Interpolation " ++
    "LegacyInterpolation MutableMapping RawConfigParser SafeConfigParser SectionProxy " ++
    "_ChainMap",
    "",
    "DEFAULTSECT MAX_INTERPOLATION_DEPTH _UNSET __all__ __builtins__ __cached__ __doc__ " ++
    "__file__ __loader__ __name__ __package__ __spec__ functools io itertools os re sys " ++
    "warnings"⟩,
  ⟨"concurrent.futures",
    "Executor Future ProcessPoolExecutor ThreadPoolExecutor",
    "as_completed wait",
    "ALL_COMPLETED FIRST_COMPLETED FIRST_EXCEPTION __author__ __doc__"⟩,
  ⟨"select",
    "__loader__ epoll",
    "poll select",
    "EPOLLERR EPOLLET EPOLLHUP EPOLLIN EPOLLMSG EPOLLONESHOT EPOLLOUT EPOLLPRI EPOLLRDBAND " ++
    "EPOLLRDHUP EPOLLRDNORM EPOLLWRBAND EPOLLWRNORM EPOLL_CLOEXEC PIPE_BUF POLLERR POLLHUP " ++
    "POLLIN POLLMSG POLLNVAL POLLOUT POLLPRI POLLRDBAND POLLRDHUP POLLRDNORM POLLWRBAND " ++
    "POLLWRNORM __doc__ __name__ __package__ __spec__"⟩,
  ⟨"ssl",
    "AlertDescription DefaultVerifyPaths MemoryBIO Options Purpose SSLContext " ++
    "SSLErrorNumber SSLObject SSLSession SSLSocket TLSVersion VerifyFlags VerifyMode " ++
    "_ASN1Object _Enum _IntEnum _IntFlag _SSLContext _SSLMethod _TLSAlertType " ++
    "_TLSContentType _TLSMessageType socket",
    "DER_cert_to_PEM_cert PEM_cert_to_DER_cert RAND_add RAND_bytes RAND_pseudo_bytes " ++
    "RAND_status _create_default_https_context _create_stdlib_context " ++
    "_create_unverified_context _dnsname_match _inet_paton _ipaddress_match _nid2obj " ++
    "_simple_enum _sslcopydoc _txt2obj cert_time_to_seconds create_connection " ++
    "create_default_context get_default_verify_paths get_protocol_name " ++
    "get_server_certificate match_hostname namedtuple wrap_socket",
    "ALERT_DESCRIPTION_ACCESS_DENIED ALERT_DESCRIPTION_BAD_CERTIFICATE " ++
    "ALERT_DESCRIPTION_BAD_CERTIFICATE_HASH_VALUE " ++
    "ALERT_DESCRIPTION_BAD_CERTIFICATE_STATUS_RESPONSE ALERT_DESCRIPTION_BAD_RECORD_MAC " ++
    "ALERT_DESCRIPTION_CERTIFICATE_EXPIRED ALERT_DESCRIPTION_CERTIFICATE_REVOKED " ++
    "ALERT_DESCRIPTION_CERTIFICATE_UNKNOWN ALERT_DESCRIPTION_CERTIFICATE_UNOBTAINABLE " ++
    "ALERT_DESCRIPTION_CLOSE_NOTIFY ALERT_DESCRIPTION_DECODE_ERROR " ++
    "ALERT_DESCRIPTION_DECOMPRESSION_FAILURE ALERT_DESCRIPTION_DECRYPT_ERROR " ++
    "ALERT_DESCRIPTION_HANDSHAKE_FAILURE ALERT_DESCRIPTION_ILLEGAL_PARAMETER " ++
    "ALERT_DESCRIPTION_INSUFFICIENT_SECURITY ALERT_DESCRIPTION_INTERNAL_ERROR " ++
    "ALERT_DESCRIPTION_NO_RENEGOTIATION ALERT_DESCRIPTION_PROTOCOL_VERSION " ++
    "ALERT_DESCRIPTION_RECORD_OVERFLOW ALERT_DESCRIPTION_UNEXPECTED_MESSAGE " ++
    "ALERT_DESCRIPTION_UNKNOWN_CA ALERT_DESCRIPTION_UNKNOWN_PSK_IDENTITY " ++
    "ALERT_DESCRIPTION_UNRECOGNIZED_NAME ALERT_DESCRIPTION_UNSUPPORTED_CERTIFICATE " ++
    "ALERT_DESCRIPTION_UNSUPPORTED_EXTENSION ALERT_DESCRIPTION_USER_CANCELLED CERT_NONE " ++
    "CERT_OPTIONAL CERT_REQUIRED CHANNEL_BINDING_TYPES HAS_ALPN HAS_ECDH " ++
    "HAS_NEVER_CHECK_COMMON_NAME HAS_NPN HAS_SNI HAS_SSLv2 HAS_SSLv3 HAS_TLSv1 HAS_TLSv1_1 " ++
    "HAS_TLSv1_2 HAS_TLSv1_3 OPENSSL_VERSION OPENSSL_VERSION_INFO OPENSSL_VERSION_NUMBER " ++
    "OP_ALL OP_CIPHER_SERVER_PREFERENCE OP_ENABLE_MIDDLEBOX_COMPAT OP_IGNORE_UNEXPECTED_EOF " ++
    "OP_NO_COMPRESSION OP_NO_RENEGOTIATION OP_NO_SSLv2 OP_NO_SSLv3 OP_NO_TICKET OP_NO_TLSv1 " ++
    "OP_NO_TLSv1_1 OP_NO_TLSv1_2 OP_NO_TLSv1_3 OP_SINGLE_DH_USE OP_SINGLE_ECDH_USE " ++
    "PEM_FOOTER PEM_HEADER PROTOCOL_SSLv23 PROTOCOL_TLS PROTOCOL_TLS_CLIENT " ++
    "PROTOCOL_TLS_SERVER PROTOCOL_TLSv1 PROTOCOL_TLSv1_1 PROTOCOL_TLSv1_2 SOCK_STREAM " ++
    "SOL_SOCKET SO_TYPE SSL_ERROR_EOF SSL_ERROR_INVALID_ERROR_CODE SSL_ERROR_SSL " ++
    "SSL_ERROR_SYSCALL SSL_ERROR_WANT_CONNECT SSL_ERROR_WANT_READ SSL_ERROR_WANT_WRITE " ++
    "SSL_ERROR_WANT_X509_LOOKUP SSL_ERROR_ZERO_RETURN VERIFY_ALLOW_PROXY_CERTS " ++
    "VERIFY_CRL_CHECK_CHAIN VERIFY_CRL_CHECK_LEAF VERIFY_DEFAULT VERIFY_X509_PARTIAL_CHAIN " ++
    "VERIFY_X509_STRICT VERIFY_X509_TRUSTED_FIRST _DEFAULT_CIPHERS _GLOBAL_DEFAULT_TIMEOUT " ++
    "_OPENSSL_API_VERSION _PROTOCOL_NAMES _RESTRICTED_SERVER_CIPHERS _SSLv2_IF_EXISTS " ++
    "__builtins__ __cached__ __doc__ __file__ __loader__ __name__ __package__ __spec__ " ++
    "_socket _ssl base64 errno os sys warnings"⟩,
  ⟨"zipfile",
    "CompleteDirs FastLookup LZMACompressor LZMADecompressor Path PyZipFile ZipExtFile " ++
    "ZipFile ZipInfo _SharedFile _Tellable _ZipWriteFile",
    "_EndRecData _EndRecData64 _ZipDecrypter _ancestry _check_compression _check_zipfile " ++
    "_dedupe _difference _extract_text_encoding _gen_crc _get_compressor _get_decompressor " ++
    "_parents _strip_extra crc32 is_zipfile main",
    "BZIP2_VERSION DEFAULT_VERSION LZMA_VERSION MAX_EXTRACT_VERSION ZIP64_LIMIT " ++
    "ZIP64_VERSION ZIP_BZIP2 ZIP_DEFLATED ZIP_FILECOUNT_LIMIT ZIP_LZMA ZIP_MAX_COMMENT " ++
    "ZIP_STORED _CD64_CREATE_VERSION _CD64_DIRECTORY_RECSIZE _CD64_DIRECTORY_SIZE " ++
    "_CD64_DISK_NUMBER _CD64_DISK_NUMBER_START _CD64_EXTRACT_VERSION " ++
    "_CD64_NUMBER_ENTRIES_THIS_DISK _CD64_NUMBER_ENTRIES_TOTAL _CD64_OFFSET_START_CENTDIR " ++
    "_CD64_SIGNATURE _CD_COMMENT_LENGTH _CD_COMPRESSED_SIZE _CD_COMPRESS_TYPE _CD_CRC " ++
    "_CD_CREATE_SYSTEM _CD_CREATE_VERSION _CD_DATE _CD_DISK_NUMBER_START " ++
    "_CD_EXTERNAL_FILE_ATTRIBUTES _CD_EXTRACT_SYSTEM _CD_EXTRACT_VERSION " ++
    "_CD_EXTRA_FIELD_LENGTH _CD_FILENAME_LENGTH _CD_FLAG_BITS _CD_INTERNAL_FILE_ATTRIBUTES " ++
    "_CD_LOCAL_HEADER_OFFSET _CD_SIGNATURE _CD_TIME _CD_UNCOMPRESSED_SIZE _DD_SIGNATURE " ++
    "_ECD_COMMENT _ECD_COMMENT_SIZE _ECD_DISK_NUMBER _ECD_DISK_START _ECD_ENTRIES_THIS_DISK " ++
    "_ECD_ENTRIES_TOTAL _ECD_LOCATION _ECD_OFFSET _ECD_SIGNATURE _ECD_SIZE " ++
    "_EXTRA_FIELD_STRUCT _FH_COMPRESSED_SIZE _FH_COMPRESSION_METHOD _FH_CRC " ++
    "_FH_EXTRACT_SYSTEM _FH_EXTRACT_VERSION _FH_EXTRA_FIELD_LENGTH _FH_FILENAME_LENGTH " ++
    "_FH_GENERAL_PURPOSE_FLAG_BITS _FH_LAST_MOD_DATE _FH_LAST_MOD_TIME _FH_SIGNATURE " ++
    "_FH_UNCOMPRESSED_SIZE _MASK_COMPRESSED_PATCH _MASK_COMPRESS_OPTION_1 _MASK_ENCRYPTED " ++
    "_MASK_STRONG_ENCRYPTION _MASK_USE_DATA_DESCRIPTOR _MASK_UTF_FILENAME __all__ " ++
    "__builtins__ __cached__ __doc__ __file__ __loader__ __name__ __package__ __spec__ " ++
    "_crctable binascii bz2 compressor_names contextlib importlib io itertools lzma os " ++
    "pathlib posixpath re shutil sizeCentralDir sizeEndCentDir sizeEndCentDir64 " ++
    "sizeEndCentDir64Locator sizeFileHeader stat stringCentralDir stringEndArchive " ++
    "stringEndArchive64 stringEndArchive64Locator stringFileHeader struct structCentralDir " ++
    "structEndArchive structEndArchive64 structEndArchive64Locator structFileHeader sys " ++
    "threading time zlib"⟩,
  ⟨"tarfile",
    "ExFileObject TarFile TarInfo _FileInFile _LowLevelFile _Stream _StreamProxy",
    "_get_filtered_attrs _safe_print bltn_open calc_chksums copyfileobj data_filter " ++
    "fully_trusted_filter is_tarfile itn main nti nts open stn tar_filter",
    "AREGTYPE BLKTYPE BLOCKSIZE CHRTYPE CONTTYPE DEFAULT_FORMAT DIRTYPE ENCODING FIFOTYPE " ++
    "GNUTYPE_LONGLINK GNUTYPE_LONGNAME GNUTYPE_SPARSE GNU_FORMAT GNU_MAGIC GNU_TYPES " ++
    "LENGTH_LINK LENGTH_NAME LENGTH_PREFIX LNKTYPE NUL PAX_FIELDS PAX_FORMAT " ++
    "PAX_NAME_FIELDS PAX_NUMBER_FIELDS POSIX_MAGIC RECORDSIZE REGTYPE REGULAR_TYPES " ++
    "SOLARIS_XHDTYPE SUPPORTED_TYPES SYMTYPE USTAR_FORMAT XGLTYPE XHDTYPE _KEEP " ++
    "_NAMED_FILTERS __all__ __author__ __builtins__ __cached__ __credits__ __doc__ __file__ " ++
    "__loader__ __name__ __package__ __spec__ _header_length_prefix_re copy grp io os pwd " ++
    "re shutil stat struct symlink_exception sys time version warnings"⟩,
  ⟨"xml.etree.ElementTree",
    "C14NWriterTarget Element ElementTree QName TreeBuilder XMLParser XMLPullParser " ++
    "_Element_Py _ListDataStream",
    "Comment PI ProcessingInstruction SubElement XML XMLID _escape_attrib " ++
    "_escape_attrib_c14n _escape_attrib_html _escape_cdata _escape_cdata_c14n _get_writer " ++
    "_looks_like_prefix_name _namespaces _raise_serialization_error _serialize_html " ++
    "_serialize_text _serialize_xml _set_factories canonicalize dump fromstring " ++
    "fromstringlist indent iselement iterparse parse register_namespace tostring " ++
    "tostringlist",
    "ElementPath HTML_EMPTY VERSION __all__ __builtins__ __cached__ __doc__ __file__ " ++
    "__loader__ __name__ __package__ __spec__ _namespace_map _serialize collections " ++
    "contextlib io re sys warnings weakref"⟩,
  ⟨"email",
    "",
    "message_from_binary_file message_from_bytes message_from_file message_from_string",
    "__all__ __builtins__ __cached__ __doc__ __file__ __loader__ __name__ __package__ " ++
    "__path__ __spec__"⟩,
  ⟨"shelve",
    "BsdDbShelf BytesIO DbfilenameShelf Pickler Shelf Unpickler _ClosedDict",
    "open",
    "DEFAULT_PROTOCOL __all__ __builtins__ __cached__ __doc__ __file__ __loader__ __name__ " ++
    "__package__ __spec__ collections"⟩,
  ⟨"binascii",
    "__loader__",
    "a2b_base64 a2b_hex a2b_qp a2b_uu b2a_base64 b2a_hex b2a_qp b2a_uu crc32 crc_hqx " ++
    "hexlify unhexlify",
    "__doc__ __name__ __package__ __spec__"⟩,
  ⟨"getopt",
    "",
    "_ do_longs do_shorts getopt gnu_getopt long_has_args short_has_arg",
    "__all__ __builtins__ __cached__ __doc__ __file__ __loader__ __name__ __package__ " ++
    "__spec__ os"⟩,
  ⟨"multiprocessing",
    "Process",
    "Array Barrier BoundedSemaphore Condition Event JoinableQueue Lock Manager Pipe Pool " ++
    "Queue RLock RawArray RawValue Semaphore SimpleQueue Value active_children " ++
    "allow_connection_pickling cpu_count current_process freeze_support " ++
    "get_all_start_methods get_context get_logger get_start_method log_to_stderr " ++
    "parent_process set_executable set_forkserver_preload set_start_method",
    "SUBDEBUG SUBWARNING __all__ __builtins__ __cached__ __doc__ __file__ __loader__ " ++
    "__name__ __package__ __path__ __spec__ reducer sys"⟩,
  ⟨"pprint",
    "PrettyPrinter _StringIO _safe_key",
    "_perfcheck _recursion _safe_tuple _wrap_bytes_repr isreadable isrecursive pformat pp " ++
    "pprint saferepr",
    "__all__ __builtins__ __cached__ __doc__ __file__ __loader__ __name__ __package__ " ++
    "__spec__ _builtin_scalars _collections _dataclasses _sys _types re"⟩,
  ⟨"keyword",
    "",
    "iskeyword issoftkeyword",
    "__all__ __builtins__ __cached__ __doc__ __file__ __loader__ __name__ __package__ " ++
    "__spec__ kwlist softkwlist"⟩,
  ⟨"sched",
    "Event count scheduler",
    "_time namedtuple",
    "__all__ __builtins__ __cached__ __doc__ __file__ __loader__ __name__ __package__ " ++
    "__spec__ _sentinel heapq threading time"⟩,
  ⟨"graphlib",
    "TopologicalSorter _NodeInfo",
    "",
    "_NODE_DONE _NODE_OUT __all__ __builtins__ __cached__ __doc__ __file__ __loader__ " ++
    "__name__ __package__ __spec__"⟩,
  ⟨"contextvars",
    "Context ContextVar Token",
    "copy_context",
    "__all__ __builtins__ __cached__ __doc__ __file__ __loader__ __name__ __package__ " ++
    "__spec__"⟩,
  ⟨"gc",
    "__loader__",
    "collect disable enable freeze get_count get_debug get_freeze_count get_objects " ++
    "get_referents get_referrers get_stats get_threshold is_finalized is_tracked isenabled " ++
    "set_debug set_threshold unfreeze",
    "DEBUG_COLLECTABLE DEBUG_LEAK DEBUG_SAVEALL DEBUG_STATS DEBUG_UNCOLLECTABLE __doc__ " ++
    "__name__ __package__ __spec__ callbacks garbage"⟩,
  ⟨"atexit",
    "__loader__",
    "_clear _ncallbacks _run_exitfuncs register unregister",
    "__doc__ __name__ __package__ __spec__"⟩,
  ⟨"stat",
    "__loader__",
    "S_IFMT S_IMODE S_ISBLK S_ISCHR S_ISDIR S_ISDOOR S_ISFIFO S_ISLNK S_ISPORT S_ISREG " ++
    "S_ISSOCK S_ISWHT filemode",
    "FILE_ATTRIBUTE_ARCHIVE FILE_ATTRIBUTE_COMPRESSED FILE_ATTRIBUTE_DEVICE " ++
    "FILE_ATTRIBUTE_DIRECTORY FILE_ATTRIBUTE_ENCRYPTED FILE_ATTRIBUTE_HIDDEN " ++
    "FILE_ATTRIBUTE_INTEGRITY_STREAM FILE_ATTRIBUTE_NORMAL " ++
    "FILE_ATTRIBUTE_NOT_CONTENT_INDEXED FILE_ATTRIBUTE_NO_SCRUB_DATA FILE_ATTRIBUTE_OFFLINE " ++
    "FILE_ATTRIBUTE_READONLY FILE_ATTRIBUTE_REPARSE_POINT FILE_ATTRIBUTE_SPARSE_FILE " ++
    "FILE_ATTRIBUTE_SYSTEM FILE_ATTRIBUTE_TEMPORARY FILE_ATTRIBUTE_VIRTUAL SF_APPEND " ++
    "SF_ARCHIVED SF_IMMUTABLE SF_NOUNLINK SF_SNAPSHOT ST_ATIME ST_CTIME ST_DEV ST_GID " ++
    "ST_INO ST_MODE ST_MTIME ST_NLINK ST_SIZE ST_UID S_ENFMT S_IEXEC S_IFBLK S_IFCHR " ++
    "S_IFDIR S_IFDOOR S_IFIFO S_IFLNK S_IFPORT S_IFREG S_IFSOCK S_IFWHT S_IREAD S_IRGRP " ++
    "S_IROTH S_IRUSR S_IRWXG S_IRWXO S_IRWXU S_ISGID S_ISUID S_ISVTX S_IWGRP S_IWOTH " ++
    "S_IWRITE S_IWUSR S_IXGRP S_IXOTH S_IXUSR UF_APPEND UF_COMPRESSED UF_HIDDEN " ++
    "UF_IMMUTABLE UF_NODUMP UF_NOUNLINK UF_OPAQUE __builtins__ __doc__ __file__ __name__ " ++
    "__package__ __spec__ _filemode_table"⟩,
  ⟨"fnmatch",
    "",
    "_compile_pattern filter fnmatch fnmatchcase translate",
    "__all__ __builtins__ __cached__ __doc__ __file__ __loader__ __name__ __package__ " ++
    "__spec__ functools os posixpath re"⟩,
  ⟨"linecache",
    "",
    "checkcache clearcache getline getlines lazycache updatecache",
    "__all__ __builtins__ __cached__ __doc__ __file__ __loader__ __name__ __package__ " ++
    "__spec__ cache functools os sys tokenize"⟩,
  ⟨"tokenize",
    "TextIOWrapper TokenInfo Untokenizer",
    "ISEOF ISNONTERMINAL ISTERMINAL _all_string_prefixes _builtin_open _compile " ++
    "_generate_tokens_from_c_tokenizer _get_normal_name _tokenize any detect_encoding " ++
    "generate_tokens group lookup main maybe open tokenize untokenize",
    "AMPER AMPEREQUAL ASYNC AT ATEQUAL AWAIT BOM_UTF8 Binnumber CIRCUMFLEX CIRCUMFLEXEQUAL " ++
    "COLON COLONEQUAL COMMA COMMENT Comment ContStr DEDENT DOT DOUBLESLASH DOUBLESLASHEQUAL " ++
    "DOUBLESTAR DOUBLESTAREQUAL Decnumber Double Double3 ELLIPSIS ENCODING ENDMARKER " ++
    "EQEQUAL EQUAL ERRORTOKEN EXACT_TOKEN_TYPES Expfloat Exponent Floatnumber Funny GREATER " ++
    "GREATEREQUAL Hexnumber INDENT Ignore Imagnumber Intnumber LBRACE LEFTSHIFT " ++
    "LEFTSHIFTEQUAL LESS LESSEQUAL LPAR LSQB MINEQUAL MINUS NAME NEWLINE NL NOTEQUAL " ++
    "NT_OFFSET NUMBER N_TOKENS Name Number OP Octnumber PERCENT PERCENTEQUAL PLUS PLUSEQUAL " ++
    "PlainToken Pointfloat PseudoExtras PseudoToken RARROW RBRACE RIGHTSHIFT " ++
    "RIGHTSHIFTEQUAL RPAR RSQB SEMI SLASH SLASHEQUAL SOFT_KEYWORD STAR STAREQUAL STRING " ++
    "Single Single3 Special String StringPrefix TILDE TYPE_COMMENT TYPE_IGNORE Token Triple " ++
    "VBAR VBAREQUAL Whitespace __all__ __author__ __builtins__ __cached__ __credits__ " ++
    "__doc__ __file__ __loader__ __name__ __package__ __spec__ _itertools blank_re " ++
    "collections cookie_re endpats functools re single_quoted sys tabsize tok_name " ++
    "triple_quoted"⟩,
  ⟨"token",
    "",
    "ISEOF ISNONTERMINAL ISTERMINAL",
    "AMPER AMPEREQUAL ASYNC AT ATEQUAL AWAIT CIRCUMFLEX CIRCUMFLEXEQUAL COLON COLONEQUAL " ++
    "COMMA COMMENT DEDENT DOT DOUBLESLASH DOUBLESLASHEQUAL DOUBLESTAR DOUBLESTAREQUAL " ++
    "ELLIPSIS ENCODING ENDMARKER EQEQUAL EQUAL ERRORTOKEN EXACT_TOKEN_TYPES GREATER " ++
    "GREATEREQUAL INDENT LBRACE LEFTSHIFT LEFTSHIFTEQUAL LESS LESSEQUAL LPAR LSQB MINEQUAL " ++
    "MINUS NAME NEWLINE NL NOTEQUAL NT_OFFSET NUMBER N_TOKENS OP PERCENT PERCENTEQUAL PLUS " ++
    "PLUSEQUAL RARROW RBRACE RIGHTSHIFT RIGHTSHIFTEQUAL RPAR RSQB SEMI SLASH SLASHEQUAL " ++
    "SOFT_KEYWORD STAR STAREQUAL STRING TILDE TYPE_COMMENT TYPE_IGNORE VBAR VBAREQUAL " ++
    "__all__ __builtins__ __cached__ __doc__ __file__ __loader__ __name__ __package__ " ++
    "__spec__ tok_name"⟩,
  ⟨"dis",
    "Bytecode Instruction Positions _ExceptionTableEntry _Instruction _Unknown",
    "_deoptop _disassemble_bytes _disassemble_recursive _disassemble_str _find_imports " ++
    "_find_store_names _format_code_info _get_code_array _get_code_object _get_const_info " ++
    "_get_const_value _get_instructions_bytes _get_name_info _is_backward_jump " ++
    "_parse_exception_table _parse_varint _try_compile _unpack_opargs code_info dis " ++
    "disassemble disco distb findlabels findlinestarts get_instructions main pretty_flags " ++
    "show_code stack_effect",
    "BINARY_OP CACHE COMPILER_FLAG_NAMES EXTENDED_ARG FORMAT_VALUE FORMAT_VALUE_CONVERTERS " ++
    "HAVE_ARGUMENT JUMP_BACKWARD LOAD_CONST LOAD_GLOBAL MAKE_FUNCTION MAKE_FUNCTION_FLAGS " ++
    "UNKNOWN _INT_BITS _INT_OVERFLOW _OPARG_WIDTH _OPNAME_WIDTH __all__ __builtins__ " ++
    "__cached__ __doc__ __file__ __loader__ __name__ __package__ __spec__ _all_opmap " ++
    "_all_opname _cache_format _empty_slot _have_code _inline_cache_entries _nb_ops " ++
    "_specializations _specialized_instructions cmp_op collections deoptmap hascompare " ++
    "hasconst hasfree hasjabs hasjrel haslocal hasname hasnargs io opmap opname spec_op " ++
    "specialized sys types"⟩,
  ⟨"site",
    "__loader__",
    "_get_path _getuserbase _init_pathinfo _script _trace abs_paths addpackage addsitedir " ++
    "addsitepackages addusersitepackages check_enableusersite enablerlcompleter " ++
    "execsitecustomize execusercustomize getsitepackages getuserbase getusersitepackages " ++
    "main makepath removeduppaths setcopyright sethelper setquit venv",
    "ENABLE_USER_SITE PREFIXES USER_BASE USER_SITE __builtins__ __doc__ __file__ __name__ " ++
    "__package__ __spec__ _sitebuiltins builtins io os stat sys"⟩,
  ⟨"timeit",
    "Timer",
    "_globals default_timer main reindent repeat timeit",
    "__all__ __builtins__ __cached__ __doc__ __file__ __loader__ __name__ __package__ " ++
    "__spec__ default_number default_repeat dummy_src_name gc itertools sys template time"⟩,
  ⟨"pdb",
    "Pdb _ModuleTarget _ScriptTarget _rstr",
    "Union find_function help lasti2lineno main pm post_mortem run runcall runctx runeval " ++
    "set_trace test",
    "TESTCMD __all__ __builtins__ __cached__ __doc__ __file__ __loader__ __name__ " ++
    "__package__ __spec__ _usage bdb cmd code dis functools glob inspect io line_prefix " ++
    "linecache os pprint re signal sys tokenize traceback"⟩,
  ⟨"cProfile",
    "Profile",
    "label main run runctx",
    "__all__ __builtins__ __cached__ __doc__ __file__ __loader__ __name__ __package__ " ++
    "__spec__ _lsprof _pyprofile io"⟩,
  ⟨"zoneinfo",
    "ZoneInfo",
    "__dir__ __getattr__ available_timezones reset_tzpath",
    "TZPATH __all__ __builtins__ __cached__ __doc__ __file__ __loader__ __name__ " ++
    "__package__ __path__ __spec__"⟩,
  ⟨"ipaddress",
    "IPv4Address IPv4Interface IPv4Network IPv6Address IPv6Interface IPv6Network " ++
    "_BaseAddress _BaseConstants _BaseNetwork _BaseV4 _BaseV6 _IPAddressBase _IPv4Constants " ++
    "_IPv6Constants",
    "_collapse_addresses_internal _count_righthand_zero_bits _find_address_range " ++
    "_split_optional_netmask collapse_addresses get_mixed_type_key ip_address ip_interface " ++
    "ip_network summarize_address_range v4_int_to_packed v6_int_to_packed",
    "IPV4LENGTH IPV6LENGTH __builtins__ __cached__ __doc__ __file__ __loader__ __name__ " ++
    "__package__ __spec__ __version__ _address_fmt_re functools"⟩,
  ⟨"smtplib",
    "LMTP SMTP SMTP_SSL",
    "_addr_only _fix_eols _quote_periods encode_base64 quoteaddr quotedata",
    "CRLF LMTP_PORT OLDSTYLE_AUTH SMTP_PORT SMTP_SSL_PORT _MAXCHALLENGE _MAXLINE __all__ " ++
    "__builtins__ __cached__ __doc__ __file__ __loader__ __name__ __package__ __spec__ " ++
    "_have_ssl bCRLF base64 copy datetime email hmac io re socket ssl sys"⟩,
  ⟨"ftplib",
    "FTP FTP_TLS _SSLSocket",
    "ftpcp parse150 parse227 parse229 parse257 print_line test",
    "B_CRLF CRLF FTP_PORT MAXLINE MSG_OOB _150_re _227_re _GLOBAL_DEFAULT_TIMEOUT __all__ " ++
    "__builtins__ __cached__ __doc__ __file__ __loader__ __name__ __package__ __spec__ " ++
    "all_errors socket ssl sys"⟩]

/-- The modules of each package of the library. -/
def submodules : List (String × String) := [
  ("asyncio",
    "base_events base_futures base_subprocess base_tasks constants coroutines events " ++
    "exceptions format_helpers futures locks log mixins proactor_events protocols queues " ++
    "runners selector_events sslproto staggered streams subprocess taskgroups tasks threads " ++
    "timeouts transports trsock unix_events windows_events windows_utils"),
  ("collections",
    "abc"),
  ("concurrent",
    "futures"),
  ("concurrent.futures",
    "_base process thread"),
  ("ctypes",
    "_aix _endian macholib util wintypes"),
  ("ctypes.macholib",
    "dyld dylib framework"),
  ("curses",
    "ascii has_key panel textpad"),
  ("dbm",
    "dumb gnu ndbm"),
  ("email",
    "_encoded_words _header_value_parser _parseaddr _policybase base64mime charset " ++
    "contentmanager encoders errors feedparser generator header headerregistry iterators " ++
    "message mime parser policy quoprimime utils"),
  ("email.mime",
    "application audio base image message multipart nonmultipart text"),
  ("encodings",
    "aliases ascii base64_codec big5 big5hkscs bz2_codec charmap cp037 cp1006 cp1026 cp1125 " ++
    "cp1140 cp1250 cp1251 cp1252 cp1253 cp1254 cp1255 cp1256 cp1257 cp1258 cp273 cp424 " ++
    "cp437 cp500 cp720 cp737 cp775 cp850 cp852 cp855 cp856 cp857 cp858 cp860 cp861 cp862 " ++
    "cp863 cp864 cp865 cp866 cp869 cp874 cp875 cp932 cp949 cp950 euc_jis_2004 euc_jisx0213 " ++
    "euc_jp euc_kr gb18030 gb2312 gbk hex_codec hp_roman8 hz idna iso2022_jp iso2022_jp_1 " ++
    "iso2022_jp_2 iso2022_jp_2004 iso2022_jp_3 iso2022_jp_ext iso2022_kr iso8859_1 " ++
    "iso8859_10 iso8859_11 iso8859_13 iso8859_14 iso8859_15 iso8859_16 iso8859_2 iso8859_3 " ++
    "iso8859_4 iso8859_5 iso8859_6 iso8859_7 iso8859_8 iso8859_9 johab koi8_r koi8_t koi8_u " ++
    "kz1048 latin_1 mac_arabic mac_croatian mac_cyrillic mac_farsi mac_greek mac_iceland " ++
    "mac_latin2 mac_roman mac_romanian mac_turkish mbcs oem palmos ptcp154 punycode " ++
    "quopri_codec raw_unicode_escape rot_13 shift_jis shift_jis_2004 shift_jisx0213 tis_620 " ++
    "undefined unicode_escape utf_16 utf_16_be utf_16_le utf_32 utf_32_be utf_32_le utf_7 " ++
    "utf_8 utf_8_sig uu_codec zlib_codec"),
  ("html",
    "entities parser"),
  ("http",
    "client cookiejar cookies server"),
  ("importlib",
    "_abc _bootstrap _bootstrap_external abc machinery metadata readers resources simple " ++
    "util"),
  ("importlib.metadata",
    "_adapters _collections _functools _itertools _meta _text"),
  ("importlib.resources",
    "_adapters _common _itertools _legacy abc readers simple"),
  ("json",
    "decoder encoder scanner tool"),
  ("logging",
    "config handlers"),
  ("multiprocessing",
    "connection context dummy forkserver heap managers pool popen_fork popen_forkserver " ++
    "popen_spawn_posix popen_spawn_win32 process queues reduction resource_sharer " ++
    "resource_tracker shared_memory sharedctypes spawn synchronize util"),
  ("multiprocessing.dummy",
    "connection"),
  ("os",
    "path"),
  ("re",
    "_casefix _compiler _constants _parser"),
  ("sqlite3",
    "dbapi2 dump"),
  ("tomllib",
    "_parser _re _types"),
  ("unittest",
    "_log async_case case loader main mock result runner signals suite util"),
  ("urllib",
    "error parse request response robotparser"),
  ("wsgiref",
    "handlers headers simple_server types util validate"),
  ("xml",
    "dom etree parsers sax"),
  ("xml.dom",
    "NodeFilter domreg expatbuilder minicompat minidom pulldom xmlbuilder"),
  ("xml.etree",
    "ElementInclude ElementPath ElementTree cElementTree"),
  ("xml.parsers",
    "expat"),
  ("xml.sax",
    "_exceptions expatreader handler saxutils xmlreader"),
  ("xmlrpc",
    "client server"),
  ("zoneinfo",
    "_common _tzpath _zoneinfo")]

/-- The modules of packages that are loaded before any controller module. -/
def loadedSubmodules : List String := [
  "collections.abc", "importlib._abc", "importlib._bootstrap", "importlib._bootstrap_external",
  "importlib.machinery", "importlib.util", "json.decoder", "json.encoder", "json.scanner",
  "os.path", "re._casefix", "re._compiler", "re._constants", "re._parser", "typing.io",
  "typing.re", "urllib.parse"]

/-- The exceptions of modules of the library, each with what it is based on. -/
def moduleExceptions : List (String × List String) := [
  ("json.decoder.JSONDecodeError", ["ValueError"]),
  ("click.exceptions.ClickException", ["Exception"]),
  ("click.exceptions.UsageError", ["click.exceptions.ClickException"]),
  ("click.exceptions.BadParameter", ["click.exceptions.UsageError"]),
  ("click.exceptions.MissingParameter", ["click.exceptions.BadParameter"]),
  ("click.exceptions.NoSuchOption", ["click.exceptions.UsageError"]),
  ("click.exceptions.BadOptionUsage", ["click.exceptions.UsageError"]),
  ("click.exceptions.BadArgumentUsage", ["click.exceptions.UsageError"]),
  ("click.exceptions.NoArgsIsHelpError", ["click.exceptions.UsageError"]),
  ("click.exceptions.FileError", ["click.exceptions.ClickException"]),
  ("click.exceptions.Abort", ["RuntimeError"]),
  ("click.exceptions.Exit", ["RuntimeError"]),
  ("apidoc.errors.ApiDocError", ["Exception"]),
  ("apidoc.errors.ConfigurationMissingError", ["apidoc.errors.ApiDocError"]),
  ("apidoc.errors.ManifestError", ["apidoc.errors.ApiDocError"]),
  ("re.error", ["Exception"]),
  ("dataclasses.FrozenInstanceError", ["AttributeError"]),
  ("decimal.DecimalException", ["ArithmeticError"]),
  ("decimal.Clamped", ["decimal.DecimalException"]),
  ("decimal.InvalidOperation", ["decimal.DecimalException"]),
  ("decimal.ConversionSyntax", ["decimal.InvalidOperation"]),
  ("decimal.DivisionByZero", ["decimal.DecimalException", "ZeroDivisionError"]),
  ("decimal.DivisionImpossible", ["decimal.InvalidOperation"]),
  ("decimal.DivisionUndefined", ["decimal.InvalidOperation", "ZeroDivisionError"]),
  ("decimal.FloatOperation", ["decimal.DecimalException", "TypeError"]),
  ("decimal.Inexact", ["decimal.DecimalException"]),
  ("decimal.InvalidContext", ["decimal.InvalidOperation"]),
  ("decimal.Rounded", ["decimal.DecimalException"]),
  ("decimal.Overflow", ["decimal.Inexact", "decimal.Rounded"]),
  ("decimal.Subnormal", ["decimal.DecimalException"]),
  ("decimal.Underflow", ["decimal.Inexact", "decimal.Rounded", "decimal.Subnormal"]),
  ("copy.Error", ["Exception"]),
  ("io.UnsupportedOperation", ["OSError", "ValueError"]),
  ("inspect.ClassFoundException", ["Exception"]),
  ("inspect.EndOfBlock", ["Exception"]),
  ("subprocess.SubprocessError", ["Exception"]),
  ("subprocess.CalledProcessError", ["subprocess.SubprocessError"]),
  ("subprocess.TimeoutExpired", ["subprocess.SubprocessError"]),
  ("threading.BrokenBarrierError", ["RuntimeError"]),
  ("warnings._OptionError", ["Exception"]),
  ("shutil.Error", ["OSError"]),
  ("shutil.ExecError", ["OSError"]),
  ("shutil.ReadError", ["OSError"]),
  ("shutil.RegistryError", ["Exception"]),
  ("shutil.SameFileError", ["shutil.Error"]),
  ("shutil.SpecialFileError", ["OSError"]),
  ("shutil._GiveupOnFastCopy", ["Exception"]),
  ("_csv.Error", ["Exception"]),
  ("_pickle.PickleError", ["Exception"]),
  ("_pickle.PicklingError", ["_pickle.PickleError"]),
  ("_pickle.UnpicklingError", ["_pickle.PickleError"]),
  ("pickle._Stop", ["Exception"]),
  ("struct.error", ["Exception"]),
  ("socket._GiveupOnSendfile", ["Exception"]),
  ("socket.gaierror", ["OSError"]),
  ("socket.herror", ["OSError"]),
  ("urllib.error.URLError", ["OSError"]),
  ("urllib.error.ContentTooShortError", ["urllib.error.URLError"]),
  ("tempfile._TemporaryFileWrapper", ["object"]),
  ("urllib.response.addbase", ["tempfile._TemporaryFileWrapper"]),
  ("urllib.response.addinfo", ["urllib.response.addbase"]),
  ("urllib.response.addinfourl", ["urllib.response.addinfo"]),
  ("urllib.error.HTTPError", ["urllib.error.URLError", "urllib.response.addinfourl"]),
  ("argparse.ArgumentError", ["Exception"]),
  ("argparse.ArgumentTypeError", ["Exception"]),
  ("statistics.StatisticsError", ["ValueError"]),
  ("_queue.Empty", ["Exception"]),
  ("queue.Full", ["Exception"]),
  ("calendar.IllegalMonthError", ["ValueError"]),
  ("calendar.IllegalWeekdayError", ["ValueError"]),
  ("asyncio.exceptions.BrokenBarrierError", ["RuntimeError"]),
  ("asyncio.exceptions.CancelledError", ["BaseException"]),
  ("asyncio.exceptions.IncompleteReadError", ["EOFError"]),
  ("asyncio.exceptions.InvalidStateError", ["Exception"]),
  ("asyncio.exceptions.LimitOverrunError", ["Exception"]),
  ("asyncio.queues.QueueEmpty", ["Exception"]),
  ("asyncio.queues.QueueFull", ["Exception"]),
  ("asyncio.exceptions.SendfileNotAvailableError", ["RuntimeError"]),
  ("http.client.HTTPException", ["Exception"]),
  ("http.client.BadStatusLine", ["http.client.HTTPException"]),
  ("http.client.ImproperConnectionState", ["http.client.HTTPException"]),
  ("http.client.CannotSendHeader", ["http.client.ImproperConnectionState"]),
  ("http.client.CannotSendRequest", ["http.client.ImproperConnectionState"]),
  ("http.client.IncompleteRead", ["http.client.HTTPException"]),
  ("http.client.InvalidURL", ["http.client.HTTPException"]),
  ("http.client.LineTooLong", ["http.client.HTTPException"]),
  ("http.client.NotConnected", ["http.client.HTTPException"]),
  ("http.client.RemoteDisconnected", ["ConnectionResetError", "http.client.BadStatusLine"]),
  ("http.client.ResponseNotReady", ["http.client.ImproperConnectionState"]),
  ("http.client.UnimplementedFileMode", ["http.client.HTTPException"]),
  ("http.client.UnknownProtocol", ["http.client.HTTPException"]),
  ("http.client.UnknownTransferEncoding", ["http.client.HTTPException"]),
  ("locale.Error", ["Exception"]),
  ("signal.itimer_error", ["OSError"]),
  ("zlib.error", ["Exception"]),
  ("gzip.BadGzipFile", ["OSError"]),
  ("sqlite3.Error", ["Exception"]),
  ("sqlite3.DatabaseError", ["sqlite3.Error"]),
  ("sqlite3.DataError", ["sqlite3.DatabaseError"]),
  ("sqlite3.IntegrityError", ["sqlite3.DatabaseError"]),
  ("sqlite3.InterfaceError", ["sqlite3.Error"]),
  ("sqlite3.InternalError", ["sqlite3.DatabaseError"]),
  ("sqlite3.NotSupportedError", ["sqlite3.DatabaseError"]),
  ("sqlite3.OperationalError", ["sqlite3.DatabaseError"]),
  ("sqlite3.ProgrammingError", ["sqlite3.DatabaseError"]),
  ("sqlite3.Warning", ["Exception"]),
  ("unittest.case.SkipTest", ["Exception"]),
  ("configparser.Error", ["Exception"]),
  ("configparser.DuplicateOptionError", ["configparser.Error"]),
  ("configparser.DuplicateSectionError", ["configparser.Error"]),
  ("configparser.InterpolationError", ["configparser.Error"]),
  ("configparser.InterpolationDepthError", ["configparser.InterpolationError"]),
  ("configparser.InterpolationMissingOptionError", ["configparser.InterpolationError"]),
  ("configparser.InterpolationSyntaxError", ["configparser.InterpolationError"]),
  ("configparser.ParsingError", ["configparser.Error"]),
  ("configparser.MissingSectionHeaderError", ["configparser.ParsingError"]),
  ("configparser.NoOptionError", ["configparser.Error"]),
  ("configparser.NoSectionError", ["configparser.Error"]),
  ("concurrent.futures._base.BrokenExecutor", ["RuntimeError"]),
  ("concurrent.futures._base.Error", ["Exception"]),
  ("concurrent.futures._base.CancelledError", ["concurrent.futures._base.Error"]),
  ("ssl.SSLError", ["OSError"]),
  ("ssl.SSLCertVerificationError", ["ssl.SSLError", "ValueError"]),
  ("ssl.SSLEOFError", ["ssl.SSLError"]),
  ("ssl.SSLSyscallError", ["ssl.SSLError"]),
  ("ssl.SSLWantReadError", ["ssl.SSLError"]),
  ("ssl.SSLWantWriteError", ["ssl.SSLError"]),
  ("ssl.SSLZeroReturnError", ["ssl.SSLError"]),
  ("zipfile.BadZipFile", ["Exception"]),
  ("zipfile.LargeZipFile", ["Exception"]),
  ("tarfile.TarError", ["Exception"]),
  ("tarfile.FilterError", ["tarfile.TarError"]),
  ("tarfile.AbsoluteLinkError", ["tarfile.FilterError"]),
  ("tarfile.AbsolutePathError", ["tarfile.FilterError"]),
  ("tarfile.CompressionError", ["tarfile.TarError"]),
  ("tarfile.HeaderError", ["tarfile.TarError"]),
  ("tarfile.EOFHeaderError", ["tarfile.HeaderError"]),
  ("tarfile.EmptyHeaderError", ["tarfile.HeaderError"]),
  ("tarfile.ExtractError", ["tarfile.TarError"]),
  ("tarfile.InvalidHeaderError", ["tarfile.HeaderError"]),
  ("tarfile.LinkOutsideDestinationError", ["tarfile.FilterError"]),
  ("tarfile.OutsideDestinationError", ["tarfile.FilterError"]),
  ("tarfile.ReadError", ["tarfile.TarError"]),
  ("tarfile.SpecialFileError", ["tarfile.FilterError"]),
  ("tarfile.StreamError", ["tarfile.TarError"]),
  ("tarfile.SubsequentHeaderError", ["tarfile.HeaderError"]),
  ("tarfile.TruncatedHeaderError", ["tarfile.HeaderError"]),
  ("xml.etree.ElementTree.ParseError", ["SyntaxError"]),
  ("binascii.Error", ["ValueError"]),
  ("binascii.Incomplete", ["Exception"]),
  ("getopt.GetoptError", ["Exception"]),
  ("multiprocessing.context.ProcessError", ["Exception"]),
  ("multiprocessing.context.AuthenticationError", ["multiprocessing.context.ProcessError"]),
  ("multiprocessing.context.BufferTooShort", ["multiprocessing.context.ProcessError"]),
  ("multiprocessing.context.TimeoutError", ["multiprocessing.context.ProcessError"]),
  ("graphlib.CycleError", ["ValueError"]),
  ("tokenize.StopTokenizing", ["Exception"]),
  ("tokenize.TokenError", ["Exception"]),
  ("pdb.Restart", ["Exception"]),
  ("zoneinfo._tzpath.InvalidTZPathWarning", ["RuntimeWarning"]),
  ("zoneinfo._common.ZoneInfoNotFoundError", ["KeyError"]),
  ("ipaddress.AddressValueError", ["ValueError"]),
  ("ipaddress.NetmaskValueError", ["ValueError"]),
  ("smtplib.SMTPException", ["OSError"]),
  ("smtplib.SMTPResponseException", ["smtplib.SMTPException"]),
  ("smtplib.SMTPAuthenticationError", ["smtplib.SMTPResponseException"]),
  ("smtplib.SMTPConnectError", ["smtplib.SMTPResponseException"]),
  ("smtplib.SMTPDataError", ["smtplib.SMTPResponseException"]),
  ("smtplib.SMTPHeloError", ["smtplib.SMTPResponseException"]),
  ("smtplib.SMTPNotSupportedError", ["smtplib.SMTPException"]),
  ("smtplib.SMTPRecipientsRefused", ["smtplib.SMTPException"]),
  ("smtplib.SMTPSenderRefused", ["smtplib.SMTPResponseException"]),
  ("smtplib.SMTPServerDisconnected", ["smtplib.SMTPException"]),
  ("ftplib.Error", ["Exception"]),
  ("ftplib.error_perm", ["ftplib.Error"]),
  ("ftplib.error_proto", ["ftplib.Error"]),
  ("ftplib.error_reply", ["ftplib.Error"]),
  ("ftplib.error_temp", ["ftplib.Error"])]

/-- What of the contents of modules is known by another path. -/
def otherPaths : List (String × String) := [
  ("os.GenericAlias", "types.GenericAlias"),
  ("os.error", "OSError"),
  ("click.ClickException", "click.exceptions.ClickException"),
  ("click.UsageError", "click.exceptions.UsageError"),
  ("click.BadParameter", "click.exceptions.BadParameter"),
  ("click.MissingParameter", "click.exceptions.MissingParameter"),
  ("click.NoSuchOption", "click.exceptions.NoSuchOption"),
  ("click.BadOptionUsage", "click.exceptions.BadOptionUsage"),
  ("click.BadArgumentUsage", "click.exceptions.BadArgumentUsage"),
  ("click.FileError", "click.exceptions.FileError"),
  ("click.Abort", "click.exceptions.Abort"),
  ("json.JSONDecodeError", "json.decoder.JSONDecodeError"),
  ("functools.GenericAlias", "types.GenericAlias"),
  ("typing.GenericAlias", "types.GenericAlias"),
  ("typing.MethodDescriptorType", "method_descriptor"),
  ("typing.MethodWrapperType", "method-wrapper"),
  ("typing.Text", "str"),
  ("typing.WrapperDescriptorType", "wrapper_descriptor"),
  ("enum.MappingProxyType", "mappingproxy"),
  ("dataclasses.FunctionType", "function"),
  ("dataclasses.GenericAlias", "types.GenericAlias"),
  ("logging.GenericAlias", "types.GenericAlias"),
  ("copy.error", "copy.Error"),
  ("io.BlockingIOError", "BlockingIOError"),
  ("contextlib.GenericAlias", "types.GenericAlias"),
  ("contextlib.MethodType", "method"),
  ("types.AsyncGeneratorType", "async_generator"),
  ("types.BuiltinFunctionType", "builtin_function_or_method"),
  ("types.BuiltinMethodType", "builtin_function_or_method"),
  ("types.CoroutineType", "coroutine"),
  ("types.EllipsisType", "ellipsis"),
  ("types.FunctionType", "function"),
  ("types.GeneratorType", "generator"),
  ("types.GenericAlias", "types.GenericAlias"),
  ("types.GetSetDescriptorType", "getset_descriptor"),
  ("types.LambdaType", "function"),
  ("types.MappingProxyType", "mappingproxy"),
  ("types.MemberDescriptorType", "member_descriptor"),
  ("types.MethodDescriptorType", "method_descriptor"),
  ("types.MethodType", "method"),
  ("types.MethodWrapperType", "method-wrapper"),
  ("types.ModuleType", "module"),
  ("types.NoneType", "NoneType"),
  ("types.NotImplementedType", "NotImplementedType"),
  ("types.UnionType", "types.UnionType"),
  ("types.WrapperDescriptorType", "wrapper_descriptor"),
  ("threading.ThreadError", "RuntimeError"),
  ("uuid.bytes_", "bytes"),
  ("uuid.int_", "int"),
  ("csv.Error", "_csv.Error"),
  ("pickle.FunctionType", "function"),
  ("pickle.PickleError", "_pickle.PickleError"),
  ("pickle.PicklingError", "_pickle.PicklingError"),
  ("pickle.UnpicklingError", "_pickle.UnpicklingError"),
  ("socket.error", "OSError"),
  ("socket.timeout", "TimeoutError"),
  ("urllib.request.ContentTooShortError", "urllib.error.ContentTooShortError"),
  ("urllib.request.HTTPError", "urllib.error.HTTPError"),
  ("urllib.request.URLError", "urllib.error.URLError"),
  ("queue.Empty", "_queue.Empty"),
  ("calendar.error", "ValueError"),
  ("asyncio.BrokenBarrierError", "asyncio.exceptions.BrokenBarrierError"),
  ("asyncio.CancelledError", "asyncio.exceptions.CancelledError"),
  ("asyncio.IncompleteReadError", "asyncio.exceptions.IncompleteReadError"),
  ("asyncio.InvalidStateError", "asyncio.exceptions.InvalidStateError"),
  ("asyncio.LimitOverrunError", "asyncio.exceptions.LimitOverrunError"),
  ("asyncio.QueueEmpty", "asyncio.queues.QueueEmpty"),
  ("asyncio.QueueFull", "asyncio.queues.QueueFull"),
  ("asyncio.SendfileNotAvailableError", "asyncio.exceptions.SendfileNotAvailableError"),
  ("asyncio.TimeoutError", "TimeoutError"),
  ("http.client.error", "http.client.HTTPException"),
  ("locale._builtin_str", "str"),
  ("signal.ItimerError", "signal.itimer_error"),
  ("sqlite3.Binary", "memoryview"),
  ("unittest.SkipTest", "unittest.case.SkipTest"),
  ("configparser._default_dict", "dict"),
  ("concurrent.futures.BrokenExecutor", "concurrent.futures._base.BrokenExecutor"),
  ("concurrent.futures.CancelledError", "concurrent.futures._base.CancelledError"),
  ("concurrent.futures.TimeoutError", "TimeoutError"),
  ("select.error", "OSError"),
  ("ssl.CertificateError", "ssl.SSLCertVerificationError"),
  ("ssl.socket_error", "OSError"),
  ("zipfile.BadZipfile", "zipfile.BadZipFile"),
  ("zipfile.error", "zipfile.BadZipFile"),
  ("getopt.error", "getopt.GetoptError"),
  ("multiprocessing.AuthenticationError", "multiprocessing.context.AuthenticationError"),
  ("multiprocessing.BufferTooShort", "multiprocessing.context.BufferTooShort"),
  ("multiprocessing.ProcessError", "multiprocessing.context.ProcessError"),
  ("multiprocessing.TimeoutError", "multiprocessing.context.TimeoutError"),
  ("graphlib.GenericAlias", "types.GenericAlias"),
  ("zoneinfo.InvalidTZPathWarning", "zoneinfo._tzpath.InvalidTZPathWarning"),
  ("zoneinfo.ZoneInfoNotFoundError", "zoneinfo._common.ZoneInfoNotFoundError")]

end RouteDocs.Module.Library
