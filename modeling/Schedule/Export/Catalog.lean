import Schedule.Field.Column

/-!
# Column catalogs of the text export

Each table of the text export has a catalog: its columns with their names and types. A file
version writes a table's columns in an order of its own (see `Schedule.Export.Layout`); the
catalog says how each named column decodes.
-/

namespace Schedule.Export

/-- A named, typed column. -/
structure ColumnDef where
  name : String
  type : ColumnType
  deriving Repr, Inhabited, DecidableEq

/-- The columns of the table `PROJECT_SUMMARY`. -/
def projectSummaryColumns : List ColumnDef := [
  ⟨"PROJECT_SUMMARYID", .integer⟩,
  ⟨"DURATIONTYPF", .integer⟩,
  ⟨"DURATIONELA_MONTHS", .integer⟩,
  ⟨"DURATION", .double⟩,
  ⟨"PROJECT_START", .timestamp⟩,
  ⟨"PROJECT_END", .timestamp⟩,
  ⟨"FISCAL_YEAR_START", .timestamp⟩,
  ⟨"LAST_ID_USED_IN_BASELINE", .integer⟩,
  ⟨"DS_ID_BOOKED_FROM", .integer⟩,
  ⟨"WBN_CONSTRAINT", .integer⟩,
  ⟨"WBN_RANGE_FROM", .integer⟩,
  ⟨"WBN_RANGE_TO", .integer⟩,
  ⟨"WBN_INCREMENT", .integer⟩,
  ⟨"WBN_MINIMUM_WIDTH", .integer⟩,
  ⟨"SPARF_INTEGER", .integer⟩,
  ⟨"UTID_CONSTRAINT", .integer⟩,
  ⟨"UTID_START_VALUE", .integer⟩,
  ⟨"UTID_INCREMENT", .integer⟩,
  ⟨"UTID_SUB_INCREMENT", .integer⟩,
  ⟨"UTID_MINIMUM_WIDTH", .integer⟩,
  ⟨"INITIAL_VIEW", .integer⟩,
  ⟨"POINT_RELEASE", .integer⟩,
  ⟨"TIMESHEET_PROJECT_ID", .integer⟩,
  ⟨"LAST_ID_USED_IN_ARCHIVES", .integer⟩,
  ⟨"PROJECT_VERSION", .integer⟩,
  ⟨"STANDARD_WORK_MIN_FADE", .integer⟩,
  ⟨"BOOKOUT_SET_UNIQUE_ID", .integer⟩,
  ⟨"NUMBER_BOOKED_OUT_SETS", .integer⟩,
  ⟨"SHORT_NAME", .varchar⟩,
  ⟨"LONG_NAME", .varchar⟩,
  ⟨"LOCAL_FILE_BOOKED_FROM", .varchar⟩,
  ⟨"WBN_START_VALUE", .varchar⟩,
  ⟨"WBN_PATHNAME_SEPARATOR", .varchar⟩,
  ⟨"WBN_TASK_SEPARATOR", .varchar⟩,
  ⟨"WBN_PREFIX", .varchar⟩,
  ⟨"LAST_WBN_USED", .varchar⟩,
  ⟨"PROJECT_FOR", .varchar⟩,
  ⟨"PROJECT_BY", .varchar⟩,
  ⟨"PATH_SEPARATOR", .varchar⟩,
  ⟨"CHART_PATH_SEPARATOR", .varchar⟩,
  ⟨"UTID_PREFIX", .varchar⟩,
  ⟨"TIMESHEET_CONNECTION", .varchar⟩,
  ⟨"WBS_PATH_SEPARATOR", .varchar⟩,
  ⟨"PROJECT_GUID", .varchar⟩,
  ⟨"DURATION_TIME_UNIT", .integer⟩,
  ⟨"SECURITY_CODELIBRARY", .integer⟩,
  ⟨"BOOKOUT_COUNTER", .integer⟩,
  ⟨"PROGRESS_METHOD", .integer⟩,
  ⟨"FORMULA_DATE_FORMAT", .integer⟩,
  ⟨"WBN_ENABLED", .bit⟩,
  ⟨"OLD_START_VALUE", .bit⟩,
  ⟨"IGNORE_SATISFIED_COSTS", .bit⟩,
  ⟨"UTID_ENABLE_SUB_INCREMENTS", .bit⟩,
  ⟨"EXCLUSIVE_CUSTOM_TIME_UNITS", .bit⟩,
  ⟨"IS_AN_ARCHIVE", .bit⟩,
  ⟨"SORT_BY_SORT_ORDER", .bit⟩,
  ⟨"USE_PROJECT_BASELINES_FOR_JP", .bit⟩,
  ⟨"USE_ROLLED_UP_OPC_WEIGHTINGS", .bit⟩,
  ⟨"DISPLAY_WBS_BY_CODE", .bit⟩,
  ⟨"INHERIT_FROM_NEIGHBOUR", .bit⟩,
  ⟨"LAST_EDITED_DATE", .timestamp⟩,
  ⟨"LAST_EDITED_BY", .integer⟩,
  ⟨"SCALE_SPR_FONTS_CONSISTENTLY", .integer⟩]

/-- The columns of the table `BAR`. -/
def barColumns : List ColumnDef := [
  ⟨"BARID", .integer⟩,
  ⟨"BAR_START", .timestamp⟩,
  ⟨"BAR_FINISH", .timestamp⟩,
  ⟨"NATURAL_ORDER", .integer⟩,
  ⟨"SPARI_INTEGER", .integer⟩,
  ⟨"NAME", .varchar⟩,
  ⟨"EXPANDED_TASK", .integer⟩,
  ⟨"PRIORITY", .integer⟩,
  ⟨"UNSCHEDULABLE", .bit⟩,
  ⟨"MARK_FOR_HIDING", .bit⟩,
  ⟨"TASKS_MAY_OVERLAP", .bit⟩,
  ⟨"SUBPROJECT_ID", .integer⟩,
  ⟨"ALT_ID", .integer⟩,
  ⟨"LAST_EDITED_DATE", .timestamp⟩,
  ⟨"LAST_EDITED_BY", .integer⟩]

/-- The columns of the table `CALENDAR`. -/
def calendarColumns : List ColumnDef := [
  ⟨"ID", .integer⟩,
  ⟨"SPARL_INTEGER", .integer⟩,
  ⟨"NAME", .varchar⟩,
  ⟨"DOMINANT_WORK_PATTERN", .integer⟩,
  ⟨"CALENDAR", .integer⟩,
  ⟨"DISPLAY_THRESHOLD", .integer⟩,
  ⟨"NO_WORKING_TIME_COLOUR", .integer⟩,
  ⟨"WORKING_TIME_COLOUR", .integer⟩,
  ⟨"NUMBERING", .integer⟩,
  ⟨"SHOW_PAST_DATES", .bit⟩,
  ⟨"ISO8601_WEEK_NUMBERING", .bit⟩,
  ⟨"CREATED_AS_FOLDER", .bit⟩,
  ⟨"ALT_ID", .integer⟩,
  ⟨"LAST_EDITED_DATE", .timestamp⟩,
  ⟨"LAST_EDITED_BY", .integer⟩]

/-- The columns of the table `EXCEPTIONN`. -/
def exceptionnColumns : List ColumnDef := [
  ⟨"ID", .integer⟩,
  ⟨"ARR_STOUT_STAPPANDARROW_TYPE", .integer⟩,
  ⟨"ARR_STOUT_STAPPANDLENGTH", .integer⟩,
  ⟨"ARR_STOUT_STAPPANDEDGE", .integer⟩,
  ⟨"ARR_STOUT_STAPPANDBORDET_COL", .integer⟩,
  ⟨"ARR_STOUT_STAPPANDINSIDG_COL", .integer⟩,
  ⟨"ARR_STOUT_STAPPANDPLACEMENW", .integer⟩,
  ⟨"BLI_STOUT_STAPPANDBLIP_TYPE", .integer⟩,
  ⟨"BLI_STOUT_STAPPANDSCALEY", .integer⟩,
  ⟨"BLI_STOUT_STAPPANDSCALEZ", .integer⟩,
  ⟨"BLI_STOUT_STAPPANDGAP", .integer⟩,
  ⟨"BLI_STOUT_STAPPANDBORDES_COL", .integer⟩,
  ⟨"BLI_STOUT_STAPPANDINSIDF_COL", .integer⟩,
  ⟨"BLI_STOUT_STAPPANDPLACEMENV", .integer⟩,
  ⟨"LIN_STOUT_STAPPANDSCALEX", .double⟩,
  ⟨"LIN_STOUT_STAPPANDWIDTH", .integer⟩,
  ⟨"LIN_STOUT_STAPPANDBORDER_COL", .integer⟩,
  ⟨"LIN_STOUT_STAPPANDINSIDE_COL", .integer⟩,
  ⟨"LIN_STOUT_STAPPANDLINE_TYPE", .integer⟩,
  ⟨"APPANDFOREGROUND_FILL_COLOUR", .integer⟩,
  ⟨"APPANDBACKGROUND_FILL_COLOUR", .integer⟩,
  ⟨"APPANDPATTERN", .integer⟩,
  ⟨"UNIQUE_BIT_FIELD", .integer⟩,
  ⟨"NAML", .varchar⟩,
  ⟨"TYPG", .integer⟩,
  ⟨"ALT_ID", .integer⟩,
  ⟨"LAST_EDITED_DATE", .timestamp⟩,
  ⟨"LAST_EDITED_BY", .integer⟩,
  ⟨"SORT_ORDER", .integer⟩]

/-- The columns of the table `EXCEPTION_ASSIGNMENT`. -/
def exceptionAssignmentColumns : List ColumnDef := [
  ⟨"EXCEPTION_ASSIGNMENTID", .integer⟩,
  ⟨"ORDF", .integer⟩,
  ⟨"START_DATE", .timestamp⟩,
  ⟨"END_DATE", .timestamp⟩,
  ⟨"EXCEPTIOO", .integer⟩]

/-- The columns of the table `TIME_ENTRY`. -/
def timeEntryColumns : List ColumnDef := [
  ⟨"TIME_ENTRYID", .integer⟩,
  ⟨"EXCEPTION", .integer⟩,
  ⟨"START_TIME", .time⟩,
  ⟨"END_TIME", .time⟩]

/-- The columns of the table `WORK_PATTERN`. -/
def workPatternColumns : List ColumnDef := [
  ⟨"ID", .integer⟩,
  ⟨"DEFAULT_OFFSET", .integer⟩,
  ⟨"NAME", .varchar⟩,
  ⟨"DEFAULT_ALIGNMENT_DATE", .timestamp⟩,
  ⟨"CREATED_AS_FOLDER", .bit⟩,
  ⟨"ALT_ID", .integer⟩,
  ⟨"LAST_EDITED_DATE", .timestamp⟩,
  ⟨"LAST_EDITED_BY", .integer⟩]

/-- The columns of the table `TASK_COMPLETED_SECTION`. -/
def taskCompletedSectionColumns : List ColumnDef := [
  ⟨"ID", .integer⟩,
  ⟨"NATURAM_ORDER", .integer⟩,
  ⟨"OVERALL_PERCENT_COMPLETE", .double⟩,
  ⟨"ACTUAL_TASK_WORK", .double⟩,
  ⟨"TASK", .integer⟩,
  ⟨"ACTUAL_START", .timestamp⟩,
  ⟨"ACTUAL_END", .timestamp⟩,
  ⟨"SPAUE_INTEGER", .integer⟩,
  ⟨"DURATIOTTYPF", .integer⟩,
  ⟨"DURATIOTELA_MONTHS", .integer⟩,
  ⟨"DURATIOTHOURS", .double⟩,
  ⟨"LINKABLE_START", .timestamp⟩,
  ⟨"LINKABLE_FINISH", .timestamp⟩,
  ⟨"DURATION_TIME_UNIT", .integer⟩,
  ⟨"UNSCHEDULABLG", .integer⟩,
  ⟨"SUBPROJECT_ID", .integer⟩,
  ⟨"ALT_ID", .integer⟩,
  ⟨"LAST_EDITED_DATE", .timestamp⟩,
  ⟨"LAST_EDITED_BY", .integer⟩]

/-- The columns of the table `TASK`. -/
def taskColumns : List ColumnDef := [
  ⟨"TASKID", .integer⟩,
  ⟨"GIVEN_DURATIONTYPF", .integer⟩,
  ⟨"GIVEN_DURATIONELA_MONTHS", .integer⟩,
  ⟨"GIVEN_DURATION", .double⟩,
  ⟨"RESUME", .timestamp⟩,
  ⟨"GIVEN_START", .timestamp⟩,
  ⟨"LATEST_PROGRESS_PERIOD", .integer⟩,
  ⟨"TASK_WORK_RATE_TIME_UNIT", .integer⟩,
  ⟨"TASK_WORK_RATE", .double⟩,
  ⟨"PLACEMENT", .integer⟩,
  ⟨"BEEN_SPLIT", .bit⟩,
  ⟨"INTERRUPTIBLE", .bit⟩,
  ⟨"HOLDING_PIN", .bit⟩,
  ⟨"ACTUAL_DURATIONTYPF", .integer⟩,
  ⟨"ACTUAL_DURATIONELA_MONTHS", .integer⟩,
  ⟨"ACTUAL_DURATION", .double⟩,
  ⟨"EARLY_START_DATE", .timestamp⟩,
  ⟨"LATE_START_DATE", .timestamp⟩,
  ⟨"FREE_START_DATE", .timestamp⟩,
  ⟨"START_CONSTRAINT_DATE", .timestamp⟩,
  ⟨"END_CONSTRAINT_DATE", .timestamp⟩,
  ⟨"EFFORT_BUDGET", .double⟩,
  ⟨"NATURAL_ORDER", .integer⟩,
  ⟨"LOGICAL_PRECEDENCE", .integer⟩,
  ⟨"SPAVE_INTEGER", .integer⟩,
  ⟨"SWIM_LANE", .integer⟩,
  ⟨"USER_PERCENT_COMPLETE", .double⟩,
  ⟨"OVERALL_PERCENT_COMPLETE", .double⟩,
  ⟨"OVERALL_PERCENT_COMPL_WEIGHT", .double⟩,
  ⟨"NAME", .varchar⟩,
  ⟨"WBN_CODE", .varchar⟩,
  ⟨"NOTES", .varchar⟩,
  ⟨"UNIQUE_TASK_ID", .varchar⟩,
  ⟨"CALENDAR", .integer⟩,
  ⟨"WBS", .integer⟩,
  ⟨"EFFORT_TIMI_UNIT", .integer⟩,
  ⟨"WORL_UNIT", .integer⟩,
  ⟨"LATEST_ALLOC_PROGRESS_PERIOD", .integer⟩,
  ⟨"WORN", .double⟩,
  ⟨"BAR", .integer⟩,
  ⟨"CONSTRAINT_FLAG", .integer⟩,
  ⟨"PRIORITB", .integer⟩,
  ⟨"CRITICAM", .bit⟩,
  ⟨"USE_PARENU_CALENDAR", .bit⟩,
  ⟨"BUFFER_TASK", .bit⟩,
  ⟨"MARK_FOS_HIDING", .bit⟩,
  ⟨"OWNED_BY_TIMESHEEV_X", .bit⟩,
  ⟨"START_ON_NEX_DAY", .bit⟩,
  ⟨"LONGEST_PATH", .bit⟩,
  ⟨"DURATIOTTYPF", .integer⟩,
  ⟨"DURATIOTELA_MONTHS", .integer⟩,
  ⟨"DURATIOTHOURS", .double⟩,
  ⟨"LINKABLE_START", .timestamp⟩,
  ⟨"LINKABLE_FINISH", .timestamp⟩,
  ⟨"DURATION_TIME_UNIT", .integer⟩,
  ⟨"UNSCHEDULABLG", .bit⟩,
  ⟨"SUBPROJECT_ID", .integer⟩,
  ⟨"ALT_ID", .integer⟩,
  ⟨"LAST_EDITED_DATE", .timestamp⟩,
  ⟨"LAST_EDITED_BY", .integer⟩,
  ⟨"IFC_PRODUCT_SET", .integer⟩,
  ⟨"IFC_TASK_TYPE", .integer⟩]

/-- The columns of the table `MILESTONE`. -/
def milestoneColumns : List ColumnDef := [
  ⟨"MILESTONEID", .integer⟩,
  ⟨"GIVEN_DATE_TIME", .timestamp⟩,
  ⟨"PROGREST_PERIOD", .integer⟩,
  ⟨"SYMBOL_APPEARANCE", .integer⟩,
  ⟨"MILESTONE_TYPE", .integer⟩,
  ⟨"PLACEMENU", .integer⟩,
  ⟨"COMPLETED", .bit⟩,
  ⟨"INTERRUPTIBLE_X", .bit⟩,
  ⟨"ACTUAL_DURATIONTYPF", .integer⟩,
  ⟨"ACTUAL_DURATIONELA_MONTHS", .integer⟩,
  ⟨"ACTUAL_DURATION", .double⟩,
  ⟨"EARLY_START_DATE", .timestamp⟩,
  ⟨"LATE_START_DATE", .timestamp⟩,
  ⟨"FREE_START_DATE", .timestamp⟩,
  ⟨"START_CONSTRAINT_DATE", .timestamp⟩,
  ⟨"END_CONSTRAINT_DATE", .timestamp⟩,
  ⟨"EFFORT_BUDGET", .double⟩,
  ⟨"NATURAL_ORDER", .integer⟩,
  ⟨"LOGICAL_PRECEDENCE", .integer⟩,
  ⟨"SPAVE_INTEGER", .integer⟩,
  ⟨"SWIM_LANE", .integer⟩,
  ⟨"USER_PERCENT_COMPLETE", .double⟩,
  ⟨"OVERALL_PERCENT_COMPLETE", .double⟩,
  ⟨"OVERALL_PERCENT_COMPL_WEIGHT", .double⟩,
  ⟨"NAME", .varchar⟩,
  ⟨"WBN_CODE", .varchar⟩,
  ⟨"NOTES", .varchar⟩,
  ⟨"UNIQUE_TASK_ID", .varchar⟩,
  ⟨"CALENDAR", .integer⟩,
  ⟨"WBS", .integer⟩,
  ⟨"EFFORT_TIMI_UNIT", .integer⟩,
  ⟨"WORL_UNIT", .integer⟩,
  ⟨"LATEST_ALLOC_PROGRESS_PERIOD", .integer⟩,
  ⟨"WORN", .double⟩,
  ⟨"BAR", .integer⟩,
  ⟨"CONSTRAINT_FLAG", .integer⟩,
  ⟨"PRIORITB", .integer⟩,
  ⟨"CRITICAM", .bit⟩,
  ⟨"USE_PARENU_CALENDAR", .bit⟩,
  ⟨"BUFFER_TASK", .bit⟩,
  ⟨"MARK_FOS_HIDING", .bit⟩,
  ⟨"OWNED_BY_TIMESHEEV_X", .bit⟩,
  ⟨"START_ON_NEX_DAY", .bit⟩,
  ⟨"LONGEST_PATH", .bit⟩,
  ⟨"DURATIOTTYPF", .integer⟩,
  ⟨"DURATIOTELA_MONTHS", .integer⟩,
  ⟨"DURATIOTHOURS", .double⟩,
  ⟨"LINKABLE_START", .timestamp⟩,
  ⟨"LINKABLE_FINISH", .timestamp⟩,
  ⟨"DURATION_TIME_UNIT", .integer⟩,
  ⟨"UNSCHEDULABLG", .bit⟩,
  ⟨"SUBPROJECT_ID", .integer⟩,
  ⟨"ALT_ID", .integer⟩,
  ⟨"LAST_EDITED_DATE", .timestamp⟩,
  ⟨"LAST_EDITED_BY", .integer⟩,
  ⟨"IFC_PRODUCT_SET", .integer⟩,
  ⟨"IFC_TASK_TYPE", .integer⟩]

/-- The columns of the table `EXPANDED_TASK`. -/
def expandedTaskColumns : List ColumnDef := [
  ⟨"EXPANDED_TASKID", .integer⟩,
  ⟨"VAR_DATE1COMM_ATTSFIXED_DATE", .timestamp⟩,
  ⟨"VAR_DATE1COMM_ATTSBASE_DATE", .integer⟩,
  ⟨"VAR_DATE2COMM_ATTSFIXED_DATE", .timestamp⟩,
  ⟨"VAR_DATE2COMM_ATTSBASE_DATE", .integer⟩,
  ⟨"VAR_DATE3COMM_ATTSFIXED_DATE", .timestamp⟩,
  ⟨"VAR_DATE3COMM_ATTSBASE_DATE", .integer⟩,
  ⟨"COMM_ATTSSCALE1", .double⟩,
  ⟨"COMM_ATTSSCALE2", .double⟩,
  ⟨"COMM_ATTSSCALE3", .double⟩,
  ⟨"COMM_ATTSNSCALES", .integer⟩,
  ⟨"PERCENTAGE_LIKELIHOOD", .double⟩,
  ⟨"PROJ_RISK", .double⟩,
  ⟨"PROJ_PRIORITY", .double⟩,
  ⟨"SUM_WEIGHTS", .double⟩,
  ⟨"ISSUE_DATE", .timestamp⟩,
  ⟨"REVISION_DATE", .timestamp⟩,
  ⟨"PROJECT_BASELINE_ID", .integer⟩,
  ⟨"DRAWN_BY", .varchar⟩,
  ⟨"REVISION_COMMENT", .varchar⟩,
  ⟨"CHART_MANAGER", .varchar⟩,
  ⟨"REVISION_NUMBER", .varchar⟩,
  ⟨"PROGRAMME_NUMBER", .varchar⟩,
  ⟨"COMMENU", .varchar⟩,
  ⟨"PROJ_TYPE", .varchar⟩,
  ⟨"PROJ_STATUS", .varchar⟩,
  ⟨"PROGRESU_PERIOD", .integer⟩,
  ⟨"MANAGER_RESOURCE", .integer⟩,
  ⟨"TYPH", .integer⟩,
  ⟨"TAG_FIELD", .integer⟩,
  ⟨"IS_PROJECT", .bit⟩,
  ⟨"CONTAINS_PROJECTS", .bit⟩,
  ⟨"CUMULATIVH_COSTCURRENCZ", .integer⟩,
  ⟨"CUMULATIVH_COSTAMOUNT", .double⟩,
  ⟨"CUMULATIVH_INCOMECURRENCZ", .integer⟩,
  ⟨"CUMULATIVH_INCOMEAMOUNT", .double⟩,
  ⟨"CUMULATIVE_ACTU_COSTCURRENCZ", .integer⟩,
  ⟨"CUMULATIVE_ACTU_COSTAMOUNT", .double⟩,
  ⟨"CUMULATIV_DURATIONTYPF", .integer⟩,
  ⟨"CUMULATIV_DURATIONELA_MONTHS", .integer⟩,
  ⟨"CUMULATIV_DURATIONHOURS", .double⟩,
  ⟨"ACTUAL_CU_DURATIONTYPF", .integer⟩,
  ⟨"ACTUAL_CU_DURATIONELA_MONTHS", .integer⟩,
  ⟨"ACTUAL_CU_DURATIONHOURS", .double⟩,
  ⟨"ACTUAL_CUMULATIVE_QUANTITY", .double⟩,
  ⟨"CUMULATIVE_QUANTIT_REMAINING", .double⟩,
  ⟨"CUMULATIVE_EFFORT_P_COMPLETE", .double⟩,
  ⟨"CUMULATIVE_WORK_PER_COMPLETE", .double⟩,
  ⟨"CUMULATIVE_QUANTITY_COMPLETE", .double⟩,
  ⟨"MILESTONE_PERCENT_COMPLETE", .double⟩,
  ⟨"FIRST_PREFERRED_START", .timestamp⟩,
  ⟨"CALCULATED_PROGRESS_DATE", .timestamp⟩,
  ⟨"EARLIEST_PROGRESS_DATE", .timestamp⟩,
  ⟨"LATEST_PROGRESS_DATE", .timestamp⟩,
  ⟨"EARLY_END_DATE_RT", .timestamp⟩,
  ⟨"LATE_END_DATE_RT", .timestamp⟩,
  ⟨"FREE_END_DATE_RT", .timestamp⟩,
  ⟨"CUMULATIVE_DEMANE_EFFORT", .double⟩,
  ⟨"CUMULATIVE_SCHEDULEE_EFFORT", .double⟩,
  ⟨"ACTUAL_CUMULATIVF_EFFORT", .double⟩,
  ⟨"CUMULATIVE_EFFORU_REMAINING", .double⟩,
  ⟨"ACTUAL_CUMULATIVE_WORK", .double⟩,
  ⟨"CUMULATIVE_WORK_REMAINING", .double⟩,
  ⟨"MILESTONES_DONE", .integer⟩,
  ⟨"MILESTONES_REMAINING", .integer⟩,
  ⟨"CUMULATIVE_EFFORT_TIME_UNIT", .integer⟩,
  ⟨"CUMULATIVE_LATEST_PRO_PERIOD", .integer⟩,
  ⟨"ACTUAL_DURATIONTYPF", .integer⟩,
  ⟨"ACTUAL_DURATIONELA_MONTHS", .integer⟩,
  ⟨"ACTUAL_DURATION", .double⟩,
  ⟨"EARLY_START_DATE", .timestamp⟩,
  ⟨"LATE_START_DATE", .timestamp⟩,
  ⟨"FREE_START_DATE", .timestamp⟩,
  ⟨"START_CONSTRAINT_DATE", .timestamp⟩,
  ⟨"END_CONSTRAINT_DATE", .timestamp⟩,
  ⟨"EFFORT_BUDGET", .double⟩,
  ⟨"NATURAL_ORDER", .integer⟩,
  ⟨"LOGICAL_PRECEDENCE", .integer⟩,
  ⟨"SPAVE_INTEGER", .integer⟩,
  ⟨"SWIM_LANE", .integer⟩,
  ⟨"USER_PERCENT_COMPLETE", .double⟩,
  ⟨"OVERALL_PERCENT_COMPLETE", .double⟩,
  ⟨"OVERALL_PERCENT_COMPL_WEIGHT", .double⟩,
  ⟨"NAME", .varchar⟩,
  ⟨"WBN_CODE", .varchar⟩,
  ⟨"NOTES", .varchar⟩,
  ⟨"UNIQUE_TASK_ID", .varchar⟩,
  ⟨"CALENDAR", .integer⟩,
  ⟨"WBS", .integer⟩,
  ⟨"EFFORT_TIMI_UNIT", .integer⟩,
  ⟨"WORL_UNIT", .integer⟩,
  ⟨"LATEST_ALLOC_PROGRESS_PERIOD", .integer⟩,
  ⟨"WORN", .double⟩,
  ⟨"BAR", .integer⟩,
  ⟨"CONSTRAINT_FLAG", .integer⟩,
  ⟨"PRIORITB", .integer⟩,
  ⟨"CRITICAM", .bit⟩,
  ⟨"USE_PARENU_CALENDAR", .bit⟩,
  ⟨"BUFFER_TASK", .bit⟩,
  ⟨"MARK_FOS_HIDING", .bit⟩,
  ⟨"OWNED_BY_TIMESHEEV_X", .bit⟩,
  ⟨"START_ON_NEX_DAY", .bit⟩,
  ⟨"LONGEST_PATH", .bit⟩,
  ⟨"DURATIOTTYPF", .integer⟩,
  ⟨"DURATIOTELA_MONTHS", .integer⟩,
  ⟨"DURATIOTHOURS", .double⟩,
  ⟨"LINKABLE_START", .timestamp⟩,
  ⟨"LINKABLE_FINISH", .timestamp⟩,
  ⟨"DURATION_TIME_UNIT", .integer⟩,
  ⟨"UNSCHEDULABLG", .bit⟩,
  ⟨"SUBPROJECT_ID", .integer⟩,
  ⟨"ALT_ID", .integer⟩,
  ⟨"LAST_EDITED_DATE", .timestamp⟩,
  ⟨"LAST_EDITED_BY", .integer⟩,
  ⟨"NUMBER_OF_ACTIVITIES", .integer⟩,
  ⟨"ONLY_PM_MAY_APPROVE", .bit⟩,
  ⟨"IFC_PRODUCT_SET", .integer⟩,
  ⟨"IFC_TASK_TYPE", .integer⟩]

/-- The columns of the table `HAMMOCK_TASK`. -/
def hammockTaskColumns : List ColumnDef := [
  ⟨"HAMMOCK_TASKID", .integer⟩,
  ⟨"CUMULATIVH_COSTCURRENCZ", .integer⟩,
  ⟨"CUMULATIVH_COSTAMOUNT", .double⟩,
  ⟨"CUMULATIVH_INCOMECURRENCZ", .integer⟩,
  ⟨"CUMULATIVH_INCOMEAMOUNT", .double⟩,
  ⟨"CUMULATIVE_ACTU_COSTCURRENCZ", .integer⟩,
  ⟨"CUMULATIVE_ACTU_COSTAMOUNT", .double⟩,
  ⟨"CUMULATIV_DURATIONTYPF", .integer⟩,
  ⟨"CUMULATIV_DURATIONELA_MONTHS", .integer⟩,
  ⟨"CUMULATIV_DURATIONHOURS", .double⟩,
  ⟨"ACTUAL_CU_DURATIONTYPF", .integer⟩,
  ⟨"ACTUAL_CU_DURATIONELA_MONTHS", .integer⟩,
  ⟨"ACTUAL_CU_DURATIONHOURS", .double⟩,
  ⟨"ACTUAL_CUMULATIVE_QUANTITY", .double⟩,
  ⟨"CUMULATIVE_QUANTIT_REMAINING", .double⟩,
  ⟨"CUMULATIVE_EFFORT_P_COMPLETE", .double⟩,
  ⟨"CUMULATIVE_WORK_PER_COMPLETE", .double⟩,
  ⟨"CUMULATIVE_QUANTITY_COMPLETE", .double⟩,
  ⟨"MILESTONE_PERCENT_COMPLETE", .double⟩,
  ⟨"FIRST_PREFERRED_START", .timestamp⟩,
  ⟨"CALCULATED_PROGRESS_DATE", .timestamp⟩,
  ⟨"EARLIEST_PROGRESS_DATE", .timestamp⟩,
  ⟨"LATEST_PROGRESS_DATE", .timestamp⟩,
  ⟨"EARLY_END_DATE_RT", .timestamp⟩,
  ⟨"LATE_END_DATE_RT", .timestamp⟩,
  ⟨"FREE_END_DATE_RT", .timestamp⟩,
  ⟨"CUMULATIVE_DEMANE_EFFORT", .double⟩,
  ⟨"CUMULATIVE_SCHEDULEE_EFFORT", .double⟩,
  ⟨"ACTUAL_CUMULATIVF_EFFORT", .double⟩,
  ⟨"CUMULATIVE_EFFORU_REMAINING", .double⟩,
  ⟨"ACTUAL_CUMULATIVE_WORK", .double⟩,
  ⟨"CUMULATIVE_WORK_REMAINING", .double⟩,
  ⟨"MILESTONES_DONE", .integer⟩,
  ⟨"MILESTONES_REMAINING", .integer⟩,
  ⟨"CUMULATIVE_EFFORT_TIME_UNIT", .integer⟩,
  ⟨"CUMULATIVE_LATEST_PRO_PERIOD", .integer⟩,
  ⟨"ACTUAL_DURATIONTYPF", .integer⟩,
  ⟨"ACTUAL_DURATIONELA_MONTHS", .integer⟩,
  ⟨"ACTUAL_DURATION", .double⟩,
  ⟨"EARLY_START_DATE", .timestamp⟩,
  ⟨"LATE_START_DATE", .timestamp⟩,
  ⟨"FREE_START_DATE", .timestamp⟩,
  ⟨"START_CONSTRAINT_DATE", .timestamp⟩,
  ⟨"END_CONSTRAINT_DATE", .timestamp⟩,
  ⟨"EFFORT_BUDGET", .double⟩,
  ⟨"NATURAL_ORDER", .integer⟩,
  ⟨"LOGICAL_PRECEDENCE", .integer⟩,
  ⟨"SPAVE_INTEGER", .integer⟩,
  ⟨"SWIM_LANE", .integer⟩,
  ⟨"USER_PERCENT_COMPLETE", .double⟩,
  ⟨"OVERALL_PERCENT_COMPLETE", .double⟩,
  ⟨"OVERALL_PERCENT_COMPL_WEIGHT", .double⟩,
  ⟨"NAME", .varchar⟩,
  ⟨"WBN_CODE", .varchar⟩,
  ⟨"NOTES", .varchar⟩,
  ⟨"UNIQUE_TASK_ID", .varchar⟩,
  ⟨"CALENDAR", .integer⟩,
  ⟨"WBS", .integer⟩,
  ⟨"EFFORT_TIMI_UNIT", .integer⟩,
  ⟨"WORL_UNIT", .integer⟩,
  ⟨"LATEST_ALLOC_PROGRESS_PERIOD", .integer⟩,
  ⟨"WORN", .double⟩,
  ⟨"BAR", .integer⟩,
  ⟨"CONSTRAINT_FLAG", .integer⟩,
  ⟨"PRIORITB", .integer⟩,
  ⟨"CRITICAM", .bit⟩,
  ⟨"USE_PARENU_CALENDAR", .bit⟩,
  ⟨"BUFFER_TASK", .bit⟩,
  ⟨"MARK_FOS_HIDING", .bit⟩,
  ⟨"OWNED_BY_TIMESHEEV_X", .bit⟩,
  ⟨"START_ON_NEX_DAY", .bit⟩,
  ⟨"LONGEST_PATH", .bit⟩,
  ⟨"DURATIOTTYPF", .integer⟩,
  ⟨"DURATIOTELA_MONTHS", .integer⟩,
  ⟨"DURATIOTHOURS", .double⟩,
  ⟨"LINKABLE_START", .timestamp⟩,
  ⟨"LINKABLE_FINISH", .timestamp⟩,
  ⟨"DURATION_TIME_UNIT", .integer⟩,
  ⟨"UNSCHEDULABLG", .bit⟩,
  ⟨"SUBPROJECT_ID", .integer⟩,
  ⟨"ALT_ID", .integer⟩,
  ⟨"LAST_EDITED_DATE", .timestamp⟩,
  ⟨"LAST_EDITED_BY", .integer⟩,
  ⟨"IFC_PRODUCT_SET", .integer⟩,
  ⟨"IFC_TASK_TYPE", .integer⟩]

/-- The columns of the table `LINK`. -/
def linkColumns : List ColumnDef := [
  ⟨"ID", .integer⟩,
  ⟨"START_LAG_TIMETYPF", .integer⟩,
  ⟨"START_LAG_TIMEELA_MONTHS", .integer⟩,
  ⟨"START_LAG_TIME", .double⟩,
  ⟨"END_LAG_TIMETYPF", .integer⟩,
  ⟨"END_LAG_TIMEELA_MONTHS", .integer⟩,
  ⟨"END_LAG_TIME", .double⟩,
  ⟨"MAXIMUM_LAGTYPF", .integer⟩,
  ⟨"MAXIMUM_LAGELA_MONTHS", .integer⟩,
  ⟨"MAXIMUM_LAGHOURS", .double⟩,
  ⟨"STARV_DATE", .timestamp⟩,
  ⟨"ENF_DATE", .timestamp⟩,
  ⟨"CURVATURE_PERCENTAGE", .integer⟩,
  ⟨"START_LAG_PERCENT_FLOAT", .double⟩,
  ⟨"END_LAG_PERCENT_FLOAT", .double⟩,
  ⟨"COMMENTS", .varchar⟩,
  ⟨"LINK_CATEGORY", .integer⟩,
  ⟨"START_LAG_TIME_UNIT", .integer⟩,
  ⟨"END_LAG_TIME_UNIT", .integer⟩,
  ⟨"MAXIMUM_LAG_TIME_UNIT", .integer⟩,
  ⟨"START_TASK", .integer⟩,
  ⟨"END_TASK", .integer⟩,
  ⟨"LINK_KIND", .integer⟩,
  ⟨"START_LAG_TYPE", .integer⟩,
  ⟨"END_LAG_TYPE", .integer⟩,
  ⟨"MAINTAIN_TASK_OFFSETS", .integer⟩,
  ⟨"UNSCHEDULABLF", .bit⟩,
  ⟨"CRITICAL", .bit⟩,
  ⟨"ON_LOOP", .bit⟩,
  ⟨"MAXIMUM_LAG_MODE", .bit⟩,
  ⟨"ANNOTATE_LEAD_LAG", .bit⟩,
  ⟨"START_REPOSITION_ON_TAS_MOVE", .bit⟩,
  ⟨"END_REPOSITION_ON_TASK_MOVE", .bit⟩,
  ⟨"DRAW_CURVED_IF_VERTICAL", .bit⟩,
  ⟨"AUTOMATIC_CURVED_LI_SETTINGS", .bit⟩,
  ⟨"DRAW_CURVED_LINK_TO_LEFT", .bit⟩,
  ⟨"LOCAL_LINK", .bit⟩,
  ⟨"DRIVING", .bit⟩,
  ⟨"ALT_ID", .integer⟩,
  ⟨"LAST_EDITED_DATE", .timestamp⟩,
  ⟨"LAST_EDITED_BY", .integer⟩]

/-- The columns of the table `CONSUMABLE_RESOURCE`. -/
def consumableResourceColumns : List ColumnDef := [
  ⟨"ID", .integer⟩,
  ⟨"COST_PER_UNITCURRENCZ", .integer⟩,
  ⟨"COST_PER_UNITAMOUNT", .double⟩,
  ⟨"INCOME_PER_UNITCURRENCZ", .integer⟩,
  ⟨"INCOME_PER_UNITAMOUNT", .double⟩,
  ⟨"COST_PER_USEDEFAULTSCURRENCZ", .integer⟩,
  ⟨"COST_PER_USEDEFAULTSAMOUNT", .double⟩,
  ⟨"INCOME_P_USEDEFAULTSCURRENCZ", .integer⟩,
  ⟨"INCOME_P_USEDEFAULTSAMOUNT", .double⟩,
  ⟨"DURATIOPDEFAULTSTYPF", .integer⟩,
  ⟨"DURATIOPDEFAULTSELA_MONTHS", .integer⟩,
  ⟨"DURATIOPDEFAULTSHOURS", .double⟩,
  ⟨"DELAZDEFAULTSTYPF", .integer⟩,
  ⟨"DELAZDEFAULTSELA_MONTHS", .integer⟩,
  ⟨"DELAZDEFAULTSHOURS", .double⟩,
  ⟨"DEFAULTSQUANTITY", .double⟩,
  ⟨"DEFAULTSACTIVITY_CONV_FACTOR", .double⟩,
  ⟨"DEFAULTSCONSUMPTION_RATE", .double⟩,
  ⟨"DEFAULTSCONSUMPTION_RAT_UNIT", .integer⟩,
  ⟨"DEFAULTSDURATION_TIMG_UNIT", .integer⟩,
  ⟨"DEFAULTSDELAY_TIMF_UNIT", .integer⟩,
  ⟨"DEFAULTSEXPENDITURE_C_CENTRE", .integer⟩,
  ⟨"DEFAULTSINCOME_COST_CENTRE", .integer⟩,
  ⟨"DEFAULTSTYPM", .integer⟩,
  ⟨"DEFAULTSCALCULATEE_PARAMETER", .integer⟩,
  ⟨"DEFAULTSBALANCINH_PARAMETER", .integer⟩,
  ⟨"DEFAULTSCONSUMPTION_RAT_TYPE", .integer⟩,
  ⟨"DEFAULTSUSE_TASL_CALENDAR", .bit⟩,
  ⟨"DEFAULTSALLOD_PROPORTIONALLY", .bit⟩,
  ⟨"DEFAULTSCONSUMED", .bit⟩,
  ⟨"DEFAULTSACCOUNTEDA_ELSEWHERE", .bit⟩,
  ⟨"DEFAULTSMAY_BE_SHORTERA_TASK", .bit⟩,
  ⟨"AVAILABLE_FROM", .timestamp⟩,
  ⟨"AVAILABLE_TO", .timestamp⟩,
  ⟨"MEASUREMENT", .varchar⟩,
  ⟨"CONSUMABLE_RESOURCE", .integer⟩,
  ⟨"ARR_STOUT_STRES_APARROW_TYPE", .integer⟩,
  ⟨"ARR_STOUT_STRES_APLENGTH", .integer⟩,
  ⟨"ARR_STOUT_STRES_APEDGE", .integer⟩,
  ⟨"ARR_STOUT_STRES_APBORDET_COL", .integer⟩,
  ⟨"ARR_STOUT_STRES_APINSIDG_COL", .integer⟩,
  ⟨"ARR_STOUT_STRES_APPLACEMENW", .integer⟩,
  ⟨"BLI_STOUT_STRES_APBLIP_TYPE", .integer⟩,
  ⟨"BLI_STOUT_STRES_APSCALEY", .integer⟩,
  ⟨"BLI_STOUT_STRES_APSCALEZ", .integer⟩,
  ⟨"BLI_STOUT_STRES_APGAP", .integer⟩,
  ⟨"BLI_STOUT_STRES_APBORDES_COL", .integer⟩,
  ⟨"BLI_STOUT_STRES_APINSIDF_COL", .integer⟩,
  ⟨"BLI_STOUT_STRES_APPLACEMENV", .integer⟩,
  ⟨"LIN_STOUT_STRES_APSCALEX", .double⟩,
  ⟨"LIN_STOUT_STRES_APWIDTH", .integer⟩,
  ⟨"LIN_STOUT_STRES_APBORDER_COL", .integer⟩,
  ⟨"LIN_STOUT_STRES_APINSIDE_COL", .integer⟩,
  ⟨"LIN_STOUT_STRES_APLINE_TYPE", .integer⟩,
  ⟨"RES_APFOREGROUND_FILL_COLOUR", .integer⟩,
  ⟨"RES_APBACKGROUND_FILL_COLOUR", .integer⟩,
  ⟨"RES_APPATTERN", .integer⟩,
  ⟨"AVAILABILITY", .double⟩,
  ⟨"TOTAL_AVAILABILITY", .double⟩,
  ⟨"SPAWE_INTEGER", .integer⟩,
  ⟨"NAME", .varchar⟩,
  ⟨"SHORT_NAME_SINGLE", .varchar⟩,
  ⟨"SHORT_NAME_PLURAL", .varchar⟩,
  ⟨"CALENDAR", .integer⟩,
  ⟨"USE_PARENV_CALENDAR", .bit⟩,
  ⟨"USE_LINE_STYLE_P_ALLOCATIONS", .bit⟩,
  ⟨"CREATED_AS_FOLDER", .bit⟩,
  ⟨"ALT_ID", .integer⟩,
  ⟨"LAST_EDITED_DATE", .timestamp⟩,
  ⟨"LAST_EDITED_BY", .integer⟩,
  ⟨"NO_NEW_ASSIGNMENTS", .integer⟩]

/-- The columns of the table `PERMANENT_RESOURCE`. -/
def permanentResourceColumns : List ColumnDef := [
  ⟨"ID", .integer⟩,
  ⟨"EMAIL_ADDRESS", .varchar⟩,
  ⟨"EFFORT_TIME_UNIT", .integer⟩,
  ⟨"PURE_TREE", .bit⟩,
  ⟨"EXCLUDED_FROM_TIMESHEET", .bit⟩,
  ⟨"ARR_STOUT_STRES_APARROW_TYPE", .integer⟩,
  ⟨"ARR_STOUT_STRES_APLENGTH", .integer⟩,
  ⟨"ARR_STOUT_STRES_APEDGE", .integer⟩,
  ⟨"ARR_STOUT_STRES_APBORDET_COL", .integer⟩,
  ⟨"ARR_STOUT_STRES_APINSIDG_COL", .integer⟩,
  ⟨"ARR_STOUT_STRES_APPLACEMENW", .integer⟩,
  ⟨"BLI_STOUT_STRES_APBLIP_TYPE", .integer⟩,
  ⟨"BLI_STOUT_STRES_APSCALEY", .integer⟩,
  ⟨"BLI_STOUT_STRES_APSCALEZ", .integer⟩,
  ⟨"BLI_STOUT_STRES_APGAP", .integer⟩,
  ⟨"BLI_STOUT_STRES_APBORDES_COL", .integer⟩,
  ⟨"BLI_STOUT_STRES_APINSIDF_COL", .integer⟩,
  ⟨"BLI_STOUT_STRES_APPLACEMENV", .integer⟩,
  ⟨"LIN_STOUT_STRES_APSCALEX", .double⟩,
  ⟨"LIN_STOUT_STRES_APWIDTH", .integer⟩,
  ⟨"LIN_STOUT_STRES_APBORDER_COL", .integer⟩,
  ⟨"LIN_STOUT_STRES_APINSIDE_COL", .integer⟩,
  ⟨"LIN_STOUT_STRES_APLINE_TYPE", .integer⟩,
  ⟨"RES_APFOREGROUND_FILL_COLOUR", .integer⟩,
  ⟨"RES_APBACKGROUND_FILL_COLOUR", .integer⟩,
  ⟨"RES_APPATTERN", .integer⟩,
  ⟨"AVAILABILITY", .double⟩,
  ⟨"TOTAL_AVAILABILITY", .double⟩,
  ⟨"SPAWE_INTEGER", .integer⟩,
  ⟨"NAME", .varchar⟩,
  ⟨"SHORT_NAME_SINGLE", .varchar⟩,
  ⟨"SHORT_NAME_PLURAL", .varchar⟩,
  ⟨"CALENDAR", .integer⟩,
  ⟨"USE_PARENV_CALENDAR", .bit⟩,
  ⟨"USE_LINE_STYLE_P_ALLOCATIONS", .bit⟩,
  ⟨"CREATED_AS_FOLDER", .bit⟩,
  ⟨"ALT_ID", .integer⟩,
  ⟨"LAST_EDITED_DATE", .timestamp⟩,
  ⟨"LAST_EDITED_BY", .integer⟩,
  ⟨"NO_NEW_ASSIGNMENTS", .integer⟩]

/-- The columns of the table `PERM_RESOURCE_SKILL`. -/
def permResourceSkillColumns : List ColumnDef := [
  ⟨"ID", .integer⟩,
  ⟨"ARR_STOUT_STSKI_APARROW_TYPE", .integer⟩,
  ⟨"ARR_STOUT_STSKI_APLENGTH", .integer⟩,
  ⟨"ARR_STOUT_STSKI_APEDGE", .integer⟩,
  ⟨"ARR_STOUT_STSKI_APBORDET_COL", .integer⟩,
  ⟨"ARR_STOUT_STSKI_APINSIDG_COL", .integer⟩,
  ⟨"ARR_STOUT_STSKI_APPLACEMENW", .integer⟩,
  ⟨"BLI_STOUT_STSKI_APBLIP_TYPE", .integer⟩,
  ⟨"BLI_STOUT_STSKI_APSCALEY", .integer⟩,
  ⟨"BLI_STOUT_STSKI_APSCALEZ", .integer⟩,
  ⟨"BLI_STOUT_STSKI_APGAP", .integer⟩,
  ⟨"BLI_STOUT_STSKI_APBORDES_COL", .integer⟩,
  ⟨"BLI_STOUT_STSKI_APINSIDF_COL", .integer⟩,
  ⟨"BLI_STOUT_STSKI_APPLACEMENV", .integer⟩,
  ⟨"LIN_STOUT_STSKI_APSCALEX", .double⟩,
  ⟨"LIN_STOUT_STSKI_APWIDTH", .integer⟩,
  ⟨"LIN_STOUT_STSKI_APBORDER_COL", .integer⟩,
  ⟨"LIN_STOUT_STSKI_APINSIDE_COL", .integer⟩,
  ⟨"LIN_STOUT_STSKI_APLINE_TYPE", .integer⟩,
  ⟨"SKI_APFOREGROUND_FILL_COLOUR", .integer⟩,
  ⟨"SKI_APBACKGROUND_FILL_COLOUR", .integer⟩,
  ⟨"SKI_APPATTERN", .integer⟩,
  ⟨"DURATIOODEFAULTTTYPF", .integer⟩,
  ⟨"DURATIOODEFAULTTELA_MONTHS", .integer⟩,
  ⟨"DURATIOODEFAULTTHOURS", .double⟩,
  ⟨"DELAYDEFAULTTTYPF", .integer⟩,
  ⟨"DELAYDEFAULTTELA_MONTHS", .integer⟩,
  ⟨"DELAYDEFAULTTHOURS", .double⟩,
  ⟨"DEFAULTTALLOCATION", .double⟩,
  ⟨"DEFAULTTWORK_FROM_ACT_FACTOR", .double⟩,
  ⟨"DEFAULTTEFFORT", .double⟩,
  ⟨"DEFAULTTWORL", .double⟩,
  ⟨"DEFAULTTWORK_RATE", .double⟩,
  ⟨"DEFAULTTWORK_UNIT", .integer⟩,
  ⟨"DEFAULTTWORK_RATE_TIME_UNIT", .integer⟩,
  ⟨"DEFAULTTEFFORT_TIMG_UNIT", .integer⟩,
  ⟨"DEFAULTTDURATION_TIMF_UNIT", .integer⟩,
  ⟨"DEFAULTTDELAY_TIME_UNIT", .integer⟩,
  ⟨"DEFAULTTTYPL", .integer⟩,
  ⟨"DEFAULTTCALCULATED_PARAMETER", .integer⟩,
  ⟨"DEFAULTTBALANCING_PARAMETER", .integer⟩,
  ⟨"DEFAULTTWORK_RATE_TYPE", .integer⟩,
  ⟨"DEFAULTTUSE_TASK_CALENDAR", .bit⟩,
  ⟨"DEFAULTTALLOC_PROPORTIONALLY", .bit⟩,
  ⟨"DEFAULTTCAN_BE_SPLIT", .bit⟩,
  ⟨"DEFAULTTCAN_BE_DELAYED", .bit⟩,
  ⟨"DEFAULTTCAN_BE_STRETCHED", .bit⟩,
  ⟨"DEFAULTTACCOUNTED__ELSEWHERE", .bit⟩,
  ⟨"DEFAULTTCONTRIBUTES_T_EFFORT", .bit⟩,
  ⟨"DEFAULTTMAY_BE_SHORTER__TASK", .bit⟩,
  ⟨"DEFAULTTSHARED_EFFORT", .bit⟩,
  ⟨"ABILITY", .double⟩,
  ⟨"EFFECTIVENESS", .double⟩,
  ⟨"AVAILABILITY", .double⟩,
  ⟨"AVAILABLF_FROM", .timestamp⟩,
  ⟨"AVAILABLF_TO", .timestamp⟩,
  ⟨"SPARO_INTEGER", .integer⟩,
  ⟨"EFFORT_TIMF_UNIT", .integer⟩,
  ⟨"ROLE", .integer⟩,
  ⟨"PLAYER", .integer⟩,
  ⟨"CREATED_AS_FOLDER", .bit⟩,
  ⟨"ALT_ID", .integer⟩,
  ⟨"LAST_EDITED_DATE", .timestamp⟩,
  ⟨"LAST_EDITED_BY", .integer⟩]

/-- The columns of the table `PERMANENT_SCHEDUL_ALLOCATION`. -/
def permanentSchedulAllocationColumns : List ColumnDef := [
  ⟨"ID", .integer⟩,
  ⟨"REQUIREE_BY", .integer⟩,
  ⟨"OWNED_BY_TIMESHEET_X", .bit⟩,
  ⟨"EFFORT", .double⟩,
  ⟨"GIVEN_EFFORT", .double⟩,
  ⟨"WORK_FROM_TASK_FACTOR", .double⟩,
  ⟨"ALLOCATIOO", .double⟩,
  ⟨"GIVEN_ALLOCATION", .double⟩,
  ⟨"ALLOCATION_OF", .integer⟩,
  ⟨"WORM_UNIT", .integer⟩,
  ⟨"WORK_RATE_TIMF_UNIT", .integer⟩,
  ⟨"EFFORT_TIMJ_UNIT", .integer⟩,
  ⟨"WORO", .double⟩,
  ⟨"GIVEN_WORK", .double⟩,
  ⟨"WORL_RATE", .double⟩,
  ⟨"GIVEN_WORK_RATE", .double⟩,
  ⟨"TYPV", .integer⟩,
  ⟨"CALCULATEG_PARAMETER", .integer⟩,
  ⟨"BALANCINJ_PARAMETER", .integer⟩,
  ⟨"SHAREE_EFFORT", .bit⟩,
  ⟨"CONTRIBUTES_TO_ACTIVI_EFFORT", .bit⟩,
  ⟨"DELAATYPF", .integer⟩,
  ⟨"DELAAELA_MONTHS", .integer⟩,
  ⟨"DELAY", .double⟩,
  ⟨"GIVEO_DURATIONTYPF", .integer⟩,
  ⟨"GIVEO_DURATIONELA_MONTHS", .integer⟩,
  ⟨"GIVEO_DURATIONHOURS", .double⟩,
  ⟨"DELAY_TIMI_UNIT", .integer⟩,
  ⟨"RATE_TYPE", .integer⟩,
  ⟨"USE_TASM_CALENDAR", .bit⟩,
  ⟨"IGNORF", .bit⟩,
  ⟨"ELAPSEE", .bit⟩,
  ⟨"MAY_BE_SHORTER_THAN_TASK", .bit⟩,
  ⟨"RESUMF", .timestamp⟩,
  ⟨"SPAXE_INTEGER", .integer⟩,
  ⟨"PERCENT_COMPLETE", .double⟩,
  ⟨"USER_PERCENU_COMPLETE", .double⟩,
  ⟨"ALLOCATIOR_GROUP", .integer⟩,
  ⟨"ALLOCATED_TO", .integer⟩,
  ⟨"PRIORITC", .integer⟩,
  ⟨"ACCOUNTED_FOR_ELSEWHERE", .bit⟩,
  ⟨"DURATIOTTYPF", .integer⟩,
  ⟨"DURATIOTELA_MONTHS", .integer⟩,
  ⟨"DURATIOTHOURS", .double⟩,
  ⟨"LINKABLE_START", .timestamp⟩,
  ⟨"LINKABLE_FINISH", .timestamp⟩,
  ⟨"DURATION_TIME_UNIT", .integer⟩,
  ⟨"UNSCHEDULABLG", .bit⟩,
  ⟨"SUBPROJECT_ID", .integer⟩,
  ⟨"ALT_ID", .integer⟩,
  ⟨"LAST_EDITED_DATE", .timestamp⟩,
  ⟨"LAST_EDITED_BY", .integer⟩,
  ⟨"TIMESHEET_ROUND_UP_IF_UNDER", .integer⟩,
  ⟨"TIMESHEET_CAP_IF_OVER", .integer⟩,
  ⟨"BUDGETED_COST_CURRENCY", .integer⟩,
  ⟨"BUDGETED_COST_AMOUNT", .double⟩,
  ⟨"FLAGS", .integer⟩,
  ⟨"ALLOCATION_PROFILE", .varchar⟩,
  ⟨"RESOURCE_CURVE", .integer⟩,
  ⟨"NONLINEAR_TYPE", .integer⟩]

/-- The columns of the table `WBS_ENTRY`. -/
def wbsEntryColumns : List ColumnDef := [
  ⟨"WBS_ENTRYID", .integer⟩,
  ⟨"NATURAP_ORDER", .integer⟩,
  ⟨"WBT_CODE", .varchar⟩,
  ⟨"WBT_NAME", .varchar⟩,
  ⟨"WBS_ENTRY", .integer⟩,
  ⟨"CREATED_AS_FOLDER", .bit⟩,
  ⟨"ALT_ID", .integer⟩,
  ⟨"LAST_EDITED_DATE", .timestamp⟩,
  ⟨"LAST_EDITED_BY", .integer⟩]

/-- The catalog of a table, by table name. -/
def catalog? : String → Option (List ColumnDef)
  | "PROJECT_SUMMARY" => some projectSummaryColumns
  | "BAR" => some barColumns
  | "CALENDAR" => some calendarColumns
  | "EXCEPTIONN" => some exceptionnColumns
  | "EXCEPTION_ASSIGNMENT" => some exceptionAssignmentColumns
  | "TIME_ENTRY" => some timeEntryColumns
  | "WORK_PATTERN" => some workPatternColumns
  | "TASK_COMPLETED_SECTION" => some taskCompletedSectionColumns
  | "TASK" => some taskColumns
  | "MILESTONE" => some milestoneColumns
  | "EXPANDED_TASK" => some expandedTaskColumns
  | "HAMMOCK_TASK" => some hammockTaskColumns
  | "LINK" => some linkColumns
  | "CONSUMABLE_RESOURCE" => some consumableResourceColumns
  | "PERMANENT_RESOURCE" => some permanentResourceColumns
  | "PERM_RESOURCE_SKILL" => some permResourceSkillColumns
  | "PERMANENT_SCHEDUL_ALLOCATION" => some permanentSchedulAllocationColumns
  | "WBS_ENTRY" => some wbsEntryColumns
  | _ => none

end Schedule.Export
